import IndigoMatter.Bridge.RegistryAgreement

/-!
# When the configuration version moves

Controllers re-read the list of bridged nodes when `ConfigurationVersion` moves, so an
operation has to bump it exactly when it has closed an endpoint or added one that
stays, whether it returns or throws.  A batch decides that by a flag, set after every
close and every creation.

What the argument needs of a reachable registry is weaker than agreement: an endpoint
that is live, or held back between the phases of the rekeys, is a child of the
aggregator.  Children that nothing owns do no harm.

The flag misses one thing.  A creation whose commands cannot be watched closes its
endpoint again and swallows the error of that close, so that an endpoint may stay
behind a creation that threw.
-/

namespace IndigoMatter.Bridge

open IndigoMatter.Library

variable {matter : Matter} {registry final start : Registry} {held : List Nat}

/-! ## Endpoints and children -/

/-- The endpoints of the live set, in order. -/
def Registry.endpoints (registry : Registry) : List Nat :=
  registry.live.values.map LiveEndpoint.endpoint

/-- The live endpoints and the ones held back are different children. -/
structure Anchored (held : List Nat) (registry : Registry) : Prop where
  distinct : (registry.endpoints ++ held).Nodup
  present : registry.endpoints ++ held ⊆ registry.children.keys
  bounded : ∀ endpoint ∈ registry.children.keys, endpoint < registry.nextEndpoint

/-- The children are the same endpoints, and nothing has been bumped. -/
structure SameSet (registry final : Registry) : Prop where
  children : final.children.keys = registry.children.keys
  next : registry.nextEndpoint ≤ final.nextEndpoint
  changes : final.configurationChanges = registry.configurationChanges

theorem SameSet.refl (registry : Registry) : SameSet registry registry := ⟨rfl, le_rfl, rfl⟩

theorem SameSet.trans {middle : Registry} (first : SameSet registry middle)
    (second : SameSet middle final) : SameSet registry final where
  children := second.children.trans first.children
  next := first.next.trans second.next
  changes := second.changes.trans first.changes

theorem anchored_fresh : Anchored [] Registry.fresh where
  distinct := List.nodup_nil
  present := List.Subset.refl []
  bounded := by
    intro endpoint mem
    cases mem

theorem Anchored.bump (anchored : Anchored held registry) : Anchored held registry.bumped :=
  ⟨anchored.distinct, anchored.present, anchored.bounded⟩

/-- Endpoints may be rearranged and given up. -/
theorem Anchored.fewer {held' : List Nat} (anchored : Anchored held registry)
    (endpoints : (final.endpoints ++ held').Subperm (registry.endpoints ++ held))
    (same : SameSet registry final) : Anchored held' final := by
  rcases endpoints with ⟨kept, perm, sublist⟩
  refine ⟨?_, ?_, ?_⟩
  · exact perm.nodup_iff.mp (anchored.distinct.sublist sublist)
  · rw [same.children]
    intro endpoint mem
    exact anchored.present (sublist.subset (perm.symm.subset mem))
  · rw [same.children]
    intro endpoint mem
    exact Nat.lt_of_lt_of_le (anchored.bounded endpoint mem) same.next

theorem endpoints_delete_sublist (indigoDeviceId : Int) :
    ((registry.live.delete indigoDeviceId).values.map LiveEndpoint.endpoint).Sublist
      registry.endpoints :=
  (List.filter_sublist.map Prod.snd).map LiveEndpoint.endpoint

/-- Storing an entry adds its endpoint, and may take that of another away. -/
theorem endpoints_set_subperm (indigoDeviceId : Int) (live : LiveEndpoint) :
    ((registry.live.set indigoDeviceId live).values.map LiveEndpoint.endpoint).Subperm
      (live.endpoint :: registry.endpoints) := by
  have perm := (InsertionMap.values_set_perm registry.live indigoDeviceId live).map
    LiveEndpoint.endpoint
  apply perm.subperm.trans
  exact ((endpoints_delete_sublist indigoDeviceId).cons_cons live.endpoint).subperm

/-- Rewriting an entry of the same endpoint. -/
theorem endpoints_perm_rewrite {indigoDeviceId : Int} {live live' : LiveEndpoint}
    (stored : registry.live.get? indigoDeviceId = some live) (same : live'.owner = live.owner) :
    ((registry.live.set indigoDeviceId live').values.map LiveEndpoint.endpoint).Perm
      registry.endpoints := by
  have owners := (owners_perm_rewrite stored same).map Prod.fst
  simpa [Registry.owners, Registry.endpoints, LiveEndpoint.owner, List.map_map,
    Function.comp_def] using owners

theorem Anchored.rewrite (anchored : Anchored held registry) {indigoDeviceId : Int}
    {live live' : LiveEndpoint} (stored : registry.live.get? indigoDeviceId = some live)
    (liveEq : final.live = registry.live.set indigoDeviceId live')
    (owner : live'.owner = live.owner) (same : SameSet registry final) : Anchored held final := by
  apply anchored.fewer _ same
  rw [Registry.endpoints, liveEq]
  exact ((endpoints_perm_rewrite stored owner).append_right held).subperm

/-- A held endpoint that is stored, at whatever device. -/
theorem Anchored.putBack {live : LiveEndpoint} (anchored : Anchored (live.endpoint :: held) registry)
    {indigoDeviceId : Int} {live' : LiveEndpoint}
    (liveEq : final.live = registry.live.set indigoDeviceId live')
    (endpoint : live'.endpoint = live.endpoint) (same : SameSet registry final) :
    Anchored held final := by
  apply anchored.fewer _ same
  rw [Registry.endpoints, liveEq]
  have stored : ((registry.live.set indigoDeviceId live').values.map LiveEndpoint.endpoint).Subperm
      (live'.endpoint :: registry.endpoints) := endpoints_set_subperm indigoDeviceId live'
  apply ((List.subperm_append_right held).mpr stored).trans
  rw [endpoint, List.cons_append]
  exact List.perm_middle.symm.subperm

/-- A held endpoint that is given up. -/
theorem Anchored.release {endpoint : Nat} (anchored : Anchored (endpoint :: held) registry) :
    Anchored held registry :=
  anchored.fewer ((List.sublist_cons_self endpoint held).append_left _).subperm (.refl registry)

/-- An entry that is taken out of the live set and held back. -/
theorem Anchored.holdBack (anchored : Anchored held registry) {indigoDeviceId : Int}
    {live : LiveEndpoint} (stored : registry.live.get? indigoDeviceId = some live) :
    Anchored (live.endpoint :: held) (registry.deleteLive indigoDeviceId) := by
  have same : SameSet registry (registry.deleteLive indigoDeviceId) := ⟨rfl, le_rfl, rfl⟩
  apply anchored.fewer _ same
  have perm := (InsertionMap.values_perm_delete stored).map LiveEndpoint.endpoint
  apply List.Perm.subperm
  apply List.perm_middle.trans
  exact (perm.symm.append_right held)

/-- The children after an endpoint was added that the aggregator did not have. -/
theorem Anchored.added (anchored : Anchored [] registry) {child : Endpoint}
    (children : final.children = registry.children.set registry.nextEndpoint child)
    (next : final.nextEndpoint = registry.nextEndpoint + 1)
    (endpoints : final.endpoints.Subperm (registry.nextEndpoint :: registry.endpoints)) :
    Anchored [] final := by
  have fresh : registry.nextEndpoint ∉ registry.children.keys := by
    intro mem
    exact Nat.lt_irrefl _ (anchored.bounded _ mem)
  have present := anchored.present
  have distinct := anchored.distinct
  rw [List.append_nil] at present distinct
  rcases endpoints with ⟨kept, perm, sublist⟩
  refine ⟨?_, ?_, ?_⟩
  · rw [List.append_nil]
    apply perm.nodup_iff.mp
    apply List.Nodup.sublist sublist
    exact List.nodup_cons.mpr ⟨fun mem => fresh (present mem), distinct⟩
  · rw [List.append_nil, children]
    intro endpoint mem
    apply InsertionMap.mem_keys_set.mpr
    rcases List.mem_cons.mp (sublist.subset (perm.symm.subset mem)) with new | old
    · exact Or.inl new
    · exact Or.inr (present old)
  · rw [children, next]
    intro endpoint mem
    rcases InsertionMap.mem_keys_set.mp mem with rfl | old
    · exact Nat.lt_succ_self _
    · exact Nat.lt_succ_of_lt (anchored.bounded endpoint old)

/-! ## The single operations -/

theorem closeOne_anchored (anchored : Anchored [] registry) {indigoDeviceId : Int}
    {live : LiveEndpoint} (stored : registry.live.get? indigoDeviceId = some live) :
    wp (closeOne matter indigoDeviceId live)
      (fun _ final => Anchored [] final ∧ live.endpoint ∈ registry.children.keys ∧
        final.live = registry.live.delete indigoDeviceId ∧
        final.children = registry.children.delete live.endpoint ∧
        final.nextEndpoint = registry.nextEndpoint ∧
        final.configurationChanges = registry.configurationChanges)
      (fun _ final => Anchored [] final ∧ SameSet registry final) registry := by
  refine wp_mono closeOne_spec ?_ ?_
  · rintro _ final ⟨-, liveEq, children, next, changes⟩
    have perm := (InsertionMap.values_perm_delete stored).map LiveEndpoint.endpoint
    have distinct := anchored.distinct
    rw [List.append_nil] at distinct
    have split := List.nodup_cons.mp (perm.nodup_iff.mp distinct)
    have member : live.endpoint ∈ registry.endpoints :=
      List.mem_map_of_mem (InsertionMap.mem_values_iff.mpr ⟨indigoDeviceId, stored⟩)
    refine ⟨⟨?_, ?_, ?_⟩, anchored.present (List.mem_append_left [] member), liveEq, children,
      next, changes⟩
    · rw [List.append_nil, Registry.endpoints, liveEq]
      exact split.2
    · rw [List.append_nil, Registry.endpoints, liveEq, children]
      intro endpoint mem
      apply InsertionMap.mem_keys_delete.mpr
      constructor
      · rintro rfl
        exact split.1 mem
      · exact anchored.present (List.mem_append_left [] ((endpoints_delete_sublist _).subset mem))
    · rw [children, next]
      intro endpoint mem
      exact anchored.bounded endpoint (InsertionMap.mem_keys_delete.mp mem).2
  · rintro _ final ⟨-, ⟨watching, liveEq⟩, children, next, changes⟩
    have same : SameSet registry final := ⟨congrArg _ children, next.ge, changes⟩
    exact ⟨anchored.rewrite stored liveEq rfl same, same⟩

theorem update_anchored (anchored : Anchored [] registry) {spec : EndpointSpec} :
    wp (update matter spec)
      (fun _ final => Anchored [] final ∧ SameSet registry final)
      (fun _ final => Anchored [] final ∧ SameSet registry final) registry := by
  cases stored : registry.live.get? spec.indigoDeviceId with
  | none => simpa [update, require, stored] using ⟨anchored, SameSet.refl registry⟩
  | some live =>
      refine wp_mono (update_spec stored) ?_ ?_
      · rintro _ final ⟨-, liveEq, children, next, changes⟩
        have same : SameSet registry final := ⟨children.keys, next.ge, changes⟩
        exact ⟨anchored.rewrite stored liveEq rfl same, same⟩
      · rintro _ final ⟨-, ⟨label, liveEq⟩, children, next, changes, -⟩
        have same : SameSet registry final := ⟨children.keys, next.ge, changes⟩
        exact ⟨anchored.rewrite stored liveEq rfl same, same⟩

/-! ## The rekeys -/

/-- Phase 1 holds endpoints back; when it throws they are given up. -/
theorem vacate_anchored {rekeys : List Rekey} (anchored : Anchored held registry) :
    wp (vacate rekeys)
      (fun result final => Anchored (result.map (·.live.endpoint) ++ held) final ∧
        SameSet registry final)
      (fun _ final => Anchored held final ∧ SameSet registry final) registry := by
  induction rekeys generalizing registry held with
  | nil => exact ⟨anchored, .refl registry⟩
  | cons rekey rest ih =>
      simp only [vacate, wp_bind, wp_get]
      cases stored : registry.live.get? rekey.fromDeviceId with
      | none => exact ⟨anchored, .refl registry⟩
      | some live =>
          have freed : SameSet registry (registry.deleteLive rekey.fromDeviceId) :=
            ⟨rfl, le_rfl, rfl⟩
          simp only [wp_bind, wp_modify]
          refine wp_mono (ih (anchored.holdBack stored)) ?_ ?_
          · rintro others final ⟨anchored', same⟩
            refine ⟨anchored'.fewer ?_ (.refl final), freed.trans same⟩
            apply List.Perm.subperm
            exact List.perm_middle.symm.append_left final.endpoints
          · rintro _ final ⟨anchored', same⟩
            exact ⟨anchored'.release, freed.trans same⟩

/-- Phase 2 stores a held endpoint, or gives it up. -/
theorem rekeyOne_anchored {rekey : HeldRekey}
    (anchored : Anchored (rekey.live.endpoint :: held) registry) :
    wp (rekeyOne matter rekey)
      (fun _ final => Anchored held final ∧ SameSet registry final)
      (fun _ final => Anchored held final ∧ SameSet registry final) registry := by
  by_cases free : rekey.spec.indigoDeviceId ∈ registry.live.keys
  · have occupied : registry.live.has rekey.spec.indigoDeviceId = true :=
      InsertionMap.has_iff.mpr free
    simp only [rekeyOne, wp_bind, wp_get, occupied, if_true, wp_throw]
    exact ⟨anchored.release, .refl registry⟩
  · refine wp_mono (rekeyOne_spec free) ?_ ?_
    · rintro _ final ⟨-, -, liveEq, children, next, changes⟩
      have same : SameSet registry final := ⟨children.keys, next.ge, changes⟩
      exact ⟨anchored.putBack liveEq rfl same, same⟩
    · rintro _ final ⟨aborted, children, next, changes, -⟩
      have same : SameSet registry final := ⟨children.keys, next.ge, changes⟩
      refine ⟨?_, same⟩
      rcases aborted with ⟨-, -, label, liveEq⟩ | ⟨-, -, liveEq⟩ | ⟨-, -, liveEq⟩
      · exact anchored.putBack liveEq rfl same
      · exact anchored.putBack liveEq rfl same
      · apply anchored.release.fewer _ same
        rw [Registry.endpoints, liveEq]
        exact List.Subperm.refl _

theorem Anchored.releaseAll (anchored : Anchored held registry) : Anchored [] registry := by
  apply anchored.fewer _ (.refl registry)
  rw [List.append_nil]
  exact (List.sublist_append_left registry.endpoints held).subperm

/-- Both phases of the rekeys. -/
def rekeyAll (matter : Matter) (rekeys : List Rekey) : Operation PUnit := do
  let held ← vacate rekeys
  forM held (rekeyOne matter)

/-- Whether the rekeys of a plan go through. -/
def rekeysLand (matter : Matter) (registry : Registry) (rekeys : List Rekey) : Bool :=
  (outcome (rekeyAll matter rekeys registry)).isOk

theorem placements_anchored {rekeys : List HeldRekey}
    (anchored : Anchored (rekeys.map (·.live.endpoint)) registry) :
    wp (forM rekeys (rekeyOne matter))
      (fun _ final => Anchored [] final ∧ SameSet registry final)
      (fun _ final => Anchored [] final ∧ SameSet registry final) registry := by
  induction rekeys generalizing registry with
  | nil => exact ⟨anchored, .refl registry⟩
  | cons rekey rest ih =>
      rw [List.forM_cons, wp_bind]
      refine wp_mono (rekeyOne_anchored anchored) ?_ ?_
      · rintro _ middle ⟨anchored', same⟩
        refine wp_mono (ih anchored') ?_ ?_
        · rintro _ final ⟨kept, same'⟩
          exact ⟨kept, same.trans same'⟩
        · rintro _ final ⟨kept, same'⟩
          exact ⟨kept, same.trans same'⟩
      · rintro _ final ⟨anchored', same⟩
        exact ⟨anchored'.releaseAll, same⟩

/-- Rekeys alone leave the children where they are. -/
theorem rekeyAll_anchored {rekeys : List Rekey} (anchored : Anchored [] registry) :
    wp (rekeyAll matter rekeys)
      (fun _ final => Anchored [] final ∧ SameSet registry final)
      (fun _ final => Anchored [] final ∧ SameSet registry final) registry := by
  rw [rekeyAll, wp_bind]
  refine wp_mono (vacate_anchored anchored) ?_ (fun _ _ thrown => thrown)
  rintro result vacated ⟨heldBack, same⟩
  rw [List.append_nil] at heldBack
  refine wp_mono (placements_anchored heldBack) ?_ ?_
  · rintro _ final ⟨kept, same'⟩
    exact ⟨kept, same.trans same'⟩
  · rintro _ final ⟨kept, same'⟩
    exact ⟨kept, same.trans same'⟩

/-! ## What an operation has changed -/

/-- Whether an endpoint that was there has been closed, or one that was not has been added
and kept. -/
def setChanged (registry final : Registry) : Bool :=
  registry.children.keys.any (fun endpoint => decide (endpoint ∉ final.children.keys)) ||
    final.children.keys.any (fun endpoint => decide (endpoint ∉ registry.children.keys))

theorem setChanged_self (registry : Registry) : setChanged registry registry = false := by
  simp [setChanged]

theorem setChanged_congr (same : SameSet registry final) :
    setChanged start final = setChanged start registry := by
  unfold setChanged
  rw [same.children]

/-- Where an operation that started at `start` has got to: a child from before the start is
one there was then, and nothing has been bumped. -/
structure Progress (start registry : Registry) : Prop where
  next : start.nextEndpoint ≤ registry.nextEndpoint
  old : ∀ endpoint ∈ registry.children.keys, endpoint < start.nextEndpoint →
    endpoint ∈ start.children.keys
  changes : registry.configurationChanges = start.configurationChanges

theorem Progress.refl (start : Registry) : Progress start start where
  next := le_rfl
  old := fun _ mem _ => mem
  changes := rfl

theorem Progress.same (progress : Progress start registry) (same : SameSet registry final) :
    Progress start final where
  next := progress.next.trans same.next
  old := by
    rw [same.children]
    exact progress.old
  changes := same.changes.trans progress.changes

/-- A close of an endpoint from before the start. -/
theorem Progress.close (progress : Progress start registry) {endpoint : Nat}
    (child : endpoint ∈ registry.children.keys) (earlier : endpoint < start.nextEndpoint)
    (children : final.children = registry.children.delete endpoint)
    (next : final.nextEndpoint = registry.nextEndpoint)
    (changes : final.configurationChanges = registry.configurationChanges) :
    Progress start final ∧ setChanged start final = true := by
  refine ⟨⟨?_, ?_, changes.trans progress.changes⟩, ?_⟩
  · rw [next]
    exact progress.next
  · rw [children]
    intro other mem
    exact progress.old other (InsertionMap.mem_keys_delete.mp mem).2
  · apply Bool.or_eq_true_iff.mpr
    left
    refine List.any_eq_true.mpr ⟨endpoint, progress.old endpoint child earlier, ?_⟩
    rw [children]
    simp

/-- A creation adds an endpoint that was not there at the start. -/
theorem Progress.create (progress : Progress start registry) (bounded : Anchored held start)
    {child : Endpoint}
    (children : final.children = registry.children.set registry.nextEndpoint child)
    (next : final.nextEndpoint = registry.nextEndpoint + 1)
    (changes : final.configurationChanges = registry.configurationChanges) :
    Progress start final ∧ setChanged start final = true := by
  refine ⟨⟨?_, ?_, changes.trans progress.changes⟩, ?_⟩
  · rw [next]
    exact Nat.le_succ_of_le progress.next
  · rw [children]
    intro other mem earlier
    rcases InsertionMap.mem_keys_set.mp mem with rfl | old
    · exact absurd progress.next (Nat.not_le_of_lt earlier)
    · exact progress.old other old earlier
  · apply Bool.or_eq_true_iff.mpr
    right
    refine List.any_eq_true.mpr ⟨registry.nextEndpoint, ?_, ?_⟩
    · rw [children]
      exact InsertionMap.mem_keys_set.mpr (Or.inl rfl)
    · apply decide_eq_true
      intro mem
      exact absurd progress.next (Nat.not_le_of_lt (bounded.bounded _ mem))

/-! ## Creations that are undone -/

/-- How matter.js answers during one operation, with the close that undoes a creation. -/
structure CleaningMatter extends Matter where
  cleanUp : String → Option String

/-- Add a new endpoint; one whose commands cannot be watched is closed again, and an error
of that close is swallowed. -/
def createCleaning (matter : CleaningMatter) (spec : EndpointSpec) : Operation Nat := do
  let endpoint ← createEndpoint matter.toMatter spec
  call matter.toMatter (.add spec.publishedAs)
  let reference := (← get).nextEndpoint
  modify fun registry => registry.addChild endpoint
  tryCatch (watchCommands matter.toMatter spec.publishedAs spec.indigoDeviceId) fun error => do
    if (matter.cleanUp spec.publishedAs).isNone then
      modify fun registry => registry.removeChild reference
    throw error
  modify fun registry =>
    registry.setLive spec.indigoDeviceId (LiveEndpoint.ofSpec spec reference)
  return endpoint.number

/-- Where the clean-up works, this is the creation that closes its endpoint again. -/
theorem createCleaning_eq_create {matter : CleaningMatter} {spec : EndpointSpec}
    (works : matter.cleanUp spec.publishedAs = none) :
    createCleaning matter spec = create matter.toMatter spec := by
  unfold createCleaning create
  rw [works]
  rfl

/-- Whether a creation throws and leaves its endpoint in the tree. -/
def strands (matter : CleaningMatter) (spec : EndpointSpec) : Bool :=
  !specRefused spec &&
    (matter.fault (.construct spec.publishedAs)).isNone &&
    (matter.fault (.add spec.publishedAs)).isNone &&
    (matter.fault (.watchCommands spec.publishedAs spec.indigoDeviceId)).isSome &&
    (matter.cleanUp spec.publishedAs).isSome

/-- The child a creation adds, in a tree that is otherwise the same. -/
structure AddsChild (registry final : Registry) : Prop where
  anchored : Anchored [] final
  children : ∃ child, final.children = registry.children.set registry.nextEndpoint child
  next : final.nextEndpoint = registry.nextEndpoint + 1
  changes : final.configurationChanges = registry.configurationChanges

/-- A creation adds one child, and one that throws adds it only where it strands it. -/
theorem createCleaning_anchored {matter : CleaningMatter} (anchored : Anchored [] registry)
    {spec : EndpointSpec} :
    wp (createCleaning matter spec)
      (fun _ final => AddsChild registry final ∧ strands matter spec = false)
      (fun _ final => if strands matter spec then AddsChild registry final
        else Anchored [] final ∧ SameSet registry final) registry := by
  have fresh : registry.nextEndpoint ∉ registry.children.keys := by
    intro mem
    exact Nat.lt_irrefl _ (anchored.bounded _ mem)
  have unchanged : Anchored [] registry ∧ SameSet registry registry := ⟨anchored, .refl registry⟩
  simp only [createCleaning, createEndpoint, wp_bind, wp_orRefuse, wp_call, wp_pure, wp_get,
    wp_modify, wp_tryCatch, wp_watchCommands]
  refine ⟨fun patch accepted => ⟨fun constructed => ⟨fun added => ⟨fun watched => ?_, ?_⟩, ?_⟩, ?_⟩, ?_⟩
  · refine ⟨⟨?_, ⟨_, rfl⟩, rfl, rfl⟩, by simp [strands, watched]⟩
    exact anchored.added rfl rfl (endpoints_set_subperm spec.indigoDeviceId _)
  · intro message failed
    by_cases works : matter.cleanUp spec.publishedAs = none
    · have spared : strands matter spec = false := by simp [strands, works]
      simp only [works, Option.isNone_none, if_true, spared, Bool.false_eq_true, if_false]
      have same : (registry.children.set registry.nextEndpoint (childOf matter.toMatter spec)).delete
          registry.nextEndpoint = registry.children := by
        rw [InsertionMap.delete_set, InsertionMap.delete_of_notMem fresh]
      refine ⟨anchored.fewer (List.Subperm.refl _) ?_, ?_⟩
      · exact ⟨congrArg _ same, Nat.le_succ _, rfl⟩
      · exact ⟨congrArg _ same, Nat.le_succ _, rfl⟩
    · have kept : (matter.cleanUp spec.publishedAs).isNone = false := by
        cases answer : matter.cleanUp spec.publishedAs with
        | none => exact absurd answer works
        | some _ => rfl
      have stranded : strands matter spec = true := by
        simpa [strands, specRefused, accepted, constructed, added, failed, Except.toOption] using
          Option.isSome_iff_ne_none.mpr works
      simp only [kept, Bool.false_eq_true, if_false, wp_throw, stranded, if_true]
      refine ⟨?_, ⟨_, rfl⟩, rfl, rfl⟩
      exact anchored.added rfl rfl (List.sublist_cons_self _ _).subperm
  · intro message failed
    have spared : strands matter spec = false := by simp [strands, failed]
    rw [spared]
    exact unchanged
  · intro message failed
    have spared : strands matter spec = false := by simp [strands, failed]
    rw [spared]
    exact unchanged
  · intro error refused
    have spared : strands matter spec = false := by
      simp [strands, specRefused, refused, Except.toOption]
    rw [spared]
    exact unchanged

/-! ## The phases of a reconcile -/

/-- A batch in which the flag says whether anything has changed yet. -/
structure Tracked (start : Registry) (state : Registry × Bool) : Prop where
  anchored : Anchored [] state.1
  progress : Progress start state.1
  marked : state.2 = setChanged start state.1

theorem tracked_self (anchored : Anchored [] registry) : Tracked registry (registry, false) where
  anchored := anchored
  progress := .refl registry
  marked := (setChanged_self registry).symm

theorem Tracked.same {state : Registry × Bool} (tracked : Tracked start state)
    (anchored : Anchored [] final) (same : SameSet state.1 final) :
    Tracked start (final, state.2) where
  anchored := anchored
  progress := tracked.progress.same same
  marked := tracked.marked.trans (setChanged_congr same).symm

/-- A new child, marked. -/
theorem Tracked.adds {state : Registry × Bool} (tracked : Tracked start state)
    (bounded : Anchored [] start) (adds : AddsChild state.1 final) : Tracked start (final, true) := by
  rcases adds with ⟨anchored, ⟨child, children⟩, next, changes⟩
  rcases tracked.progress.create bounded children next changes with ⟨progress, changed⟩
  exact ⟨anchored, progress, changed.symm⟩

/-- The removals mark the batch when one of the devices is live. -/
theorem removeMany_tracked {removals : List Int} {mutated : Bool}
    (tracked : Tracked start (registry, mutated))
    (next : registry.nextEndpoint = start.nextEndpoint) :
    wp (removeMany matter removals)
      (fun _ final => Tracked start final ∧ final.2 =
        (mutated || removals.any fun indigoDeviceId =>
          (registry.live.get? indigoDeviceId).isSome))
      (fun _ final => Tracked start final) (registry, mutated) := by
  induction removals generalizing registry mutated with
  | nil => exact ⟨tracked, (Bool.or_false mutated).symm⟩
  | cons indigoDeviceId rest ih =>
      unfold removeMany at ih ⊢
      rw [List.forM_cons, wp_bind, wp_bind, wp_get]
      cases stored : registry.live.get? indigoDeviceId with
      | none =>
          simp only [wp_pure]
          refine wp_mono (ih tracked next) ?_ (fun _ _ thrown => thrown)
          rintro _ final ⟨kept, flag⟩
          rw [List.any_cons, stored]
          exact ⟨kept, flag⟩
      | some live =>
          simp only [wp_bind, wp_onFirst, markMutated, wp_modify] at ih ⊢
          refine wp_mono (closeOne_anchored tracked.anchored stored) ?_ ?_
          · rintro _ closed ⟨anchored, child, -, children, next', changes⟩
            have earlier : live.endpoint < start.nextEndpoint := by
              rw [← next]
              exact tracked.anchored.bounded _ child
            rcases tracked.progress.close child earlier children next' changes with
              ⟨progress, changed⟩
            have after : Tracked start (closed, true) := ⟨anchored, progress, changed.symm⟩
            refine wp_mono (ih after (next'.trans next)) ?_ (fun _ _ thrown => thrown)
            rintro _ final ⟨kept, flag⟩
            rw [List.any_cons, stored]
            refine ⟨kept, ?_⟩
            rw [flag, Bool.true_or, Option.isSome_some, Bool.true_or, Bool.or_true]
          · rintro _ final ⟨anchored, same⟩
            exact tracked.same anchored same

/-- Whether the first creation of a batch strands its endpoint. -/
def strandsFirst (matter : CleaningMatter) (specs : List EndpointSpec) : Bool :=
  specs.head?.any (strands matter)

/-- A creation marks the batch, unless it is the first change and strands its endpoint. -/
theorem creates_tracked {matter : CleaningMatter} (bounded : Anchored [] start)
    {specs : List EndpointSpec} {mutated : Bool} (tracked : Tracked start (registry, mutated))
    (spared : mutated = true ∨ strandsFirst matter specs = false) :
    wp (forM specs fun spec => do
        let _ ← onFirst (createCleaning matter spec)
        markMutated)
      (fun _ final => Tracked start final ∧ final.2 = (mutated || !specs.isEmpty))
      (fun _ final => Tracked start final) (registry, mutated) := by
  induction specs generalizing registry mutated with
  | nil => exact ⟨tracked, (Bool.or_false mutated).symm⟩
  | cons spec rest ih =>
      simp only [List.forM_cons, wp_bind, wp_onFirst, markMutated, wp_modify] at ih ⊢
      refine wp_mono (createCleaning_anchored tracked.anchored) ?_ ?_
      · rintro _ created ⟨adds, -⟩
        have after : Tracked start (created, true) := tracked.adds bounded adds
        refine wp_mono (ih after (Or.inl rfl)) ?_ (fun _ _ thrown => thrown)
        rintro _ final ⟨kept, flag⟩
        refine ⟨kept, ?_⟩
        rw [flag, Bool.true_or, List.isEmpty_cons, Bool.not_false, Bool.or_true]
      · intro _ final thrown
        split at thrown
        · rcases spared with rfl | clean
          · exact tracked.adds bounded thrown
          · rename_i stranded
            rw [strandsFirst, List.head?_cons, Option.any_some, stranded] at clean
            cases clean
        · rcases thrown with ⟨anchored, same⟩
          exact tracked.same anchored same

theorem updates_tracked {specs : List EndpointSpec} {mutated : Bool}
    (tracked : Tracked start (registry, mutated)) :
    wp (forM specs fun spec => onFirst (update matter spec))
      (fun _ final => Tracked start final ∧ final.2 = mutated)
      (fun _ final => Tracked start final) (registry, mutated) := by
  induction specs generalizing registry with
  | nil => exact ⟨tracked, rfl⟩
  | cons spec rest ih =>
      simp only [List.forM_cons, wp_bind, wp_onFirst]
      refine wp_mono (update_anchored tracked.anchored) ?_ ?_
      · rintro _ final ⟨anchored, same⟩
        exact ih (tracked.same anchored same)
      · rintro _ final ⟨anchored, same⟩
        exact tracked.same anchored same

/-- What a reconcile does once its removals are done, with the creation it uses. -/
def finishPlanWith (creation : EndpointSpec → Operation Nat) (matter : Matter)
    (plan : ReconcilePlan) : Batch PUnit := do
  onFirst (rekeyAll matter plan.rekey)
  forM (plan.create ++ plan.recreate) fun spec => do
    let _ ← onFirst (creation spec)
    markMutated
  forM plan.update fun spec => onFirst (update matter spec)

/-- The mutating part of a reconcile, with the creation it uses. -/
def applyPlanWith (creation : EndpointSpec → Operation Nat) (matter : Matter)
    (plan : ReconcilePlan) (removals : List Int) : Batch PUnit := do
  removeMany matter removals
  finishPlanWith creation matter plan

theorem applyPlanWith_create (plan : ReconcilePlan) (removals : List Int) :
    applyPlanWith (create matter) matter plan removals = applyPlan matter plan removals := by
  simp only [applyPlanWith, finishPlanWith, applyPlan, rekeyAll, onFirst_bind, onFirst_forM,
    bind_assoc]

theorem finishPlan_tracked {matter : CleaningMatter} (bounded : Anchored [] start)
    {plan : ReconcilePlan} {mutated : Bool} (tracked : Tracked start (registry, mutated))
    (spared : mutated = true ∨ rekeysLand matter.toMatter registry plan.rekey = false ∨
      strandsFirst matter (plan.create ++ plan.recreate) = false) :
    wp (finishPlanWith (createCleaning matter) matter.toMatter plan)
      (fun _ final => Tracked start final ∧
        final.2 = (mutated || !(plan.create ++ plan.recreate).isEmpty))
      (fun _ final => Tracked start final) (registry, mutated) := by
  rw [finishPlanWith, wp_bind, wp_onFirst]
  refine wp_mono (wp_and (rekeyAll_anchored tracked.anchored) (wp_outcome _ _)) ?_ ?_
  · rintro _ rekeyed ⟨⟨anchored, same⟩, landed⟩
    have still : mutated = true ∨ strandsFirst matter (plan.create ++ plan.recreate) = false := by
      rcases spared with marked | failed | clean
      · exact Or.inl marked
      · exact absurd (landed.symm.trans failed) (by decide)
      · exact Or.inr clean
    rw [wp_bind]
    refine wp_mono (creates_tracked bounded (tracked.same anchored same) still) ?_
      (fun _ _ thrown => thrown)
    rintro _ ⟨created, marked⟩ ⟨createdTracked, flag⟩
    refine wp_mono (updates_tracked createdTracked) ?_ (fun _ _ thrown => thrown)
    rintro _ final ⟨kept, sameFlag⟩
    exact ⟨kept, sameFlag.trans flag⟩
  · rintro _ final ⟨⟨anchored, same⟩, -⟩
    exact tracked.same anchored same

/-- A plan whose removals are live marks what it changes, unless the first thing it does to
the children is a creation that strands its endpoint. -/
theorem applyPlan_tracked {matter : CleaningMatter} (anchored : Anchored [] registry)
    {plan : ReconcilePlan} {removals : List Int}
    (live : ∀ indigoDeviceId ∈ removals, (registry.live.get? indigoDeviceId).isSome = true)
    (spared : removals ≠ [] ∨ rekeysLand matter.toMatter registry plan.rekey = false ∨
      strandsFirst matter (plan.create ++ plan.recreate) = false) :
    wp (applyPlanWith (createCleaning matter) matter.toMatter plan removals)
      (fun _ final => Tracked registry final ∧
        final.2 = (!removals.isEmpty || !(plan.create ++ plan.recreate).isEmpty))
      (fun _ final => Tracked registry final) (registry, false) := by
  rw [applyPlanWith, wp_bind]
  cases removals with
  | nil =>
      have spared' := spared.resolve_left (fun some => some rfl)
      exact finishPlan_tracked anchored (tracked_self anchored) (Or.inr spared')
  | cons first rest =>
      refine wp_mono (removeMany_tracked (tracked_self anchored) rfl) ?_ (fun _ _ thrown => thrown)
      rintro _ ⟨middle, mutated⟩ ⟨tracked, flag⟩
      obtain rfl : mutated = true := by
        dsimp only at flag
        rw [flag, List.any_cons, live first List.mem_cons_self]
        rfl
      exact finishPlan_tracked anchored tracked (Or.inl rfl)

/-- Where the first change is a creation that strands its endpoint, the batch throws with a
new child and no mark. -/
theorem applyPlan_strands {matter : CleaningMatter} (anchored : Anchored [] registry)
    {plan : ReconcilePlan} (landed : rekeysLand matter.toMatter registry plan.rekey = true)
    (stranded : strandsFirst matter (plan.create ++ plan.recreate) = true) :
    wp (applyPlanWith (createCleaning matter) matter.toMatter plan [])
      (fun _ _ => False)
      (fun _ final => Anchored [] final.1 ∧ final.2 = false ∧
        setChanged registry final.1 = true ∧
        final.1.configurationChanges = registry.configurationChanges)
      (registry, false) := by
  unfold applyPlanWith finishPlanWith
  rw [wp_bind]
  change wp (onFirst (rekeyAll matter.toMatter plan.rekey) >>= _) _ _ (registry, false)
  rw [wp_bind, wp_onFirst]
  refine wp_mono (wp_and (rekeyAll_anchored anchored) (wp_outcome _ _)) ?_ ?_
  · rintro _ rekeyed ⟨⟨kept, same⟩, -⟩
    have tracked : Tracked registry (rekeyed, false) := (tracked_self anchored).same kept same
    cases specs : plan.create ++ plan.recreate with
    | nil =>
        rw [specs] at stranded
        cases stranded
    | cons spec rest =>
        rw [specs, strandsFirst, List.head?_cons, Option.any_some] at stranded
        simp only [List.forM_cons, wp_bind, wp_onFirst]
        refine wp_mono (createCleaning_anchored kept) ?_ ?_
        · rintro _ created ⟨-, spared⟩
          exact absurd (stranded.symm.trans spared) (by decide)
        · intro _ final thrown
          rw [if_pos stranded] at thrown
          have adds : Tracked registry (final, true) := tracked.adds anchored thrown
          exact ⟨adds.anchored, trivial, adds.marked.symm, adds.progress.changes⟩
  · rintro _ final ⟨-, failed⟩
    exact absurd (landed.symm.trans failed) (by decide)

/-! ## Counting the bumps -/

/-- The version moved once if the children changed, and not at all otherwise. -/
def CountsBump (registry final : Registry) : Prop :=
  final.configurationChanges =
    registry.configurationChanges + if setChanged registry final then 1 else 0
deriving Decidable

theorem SameSet.countsBump (same : SameSet registry final) : CountsBump registry final := by
  rw [CountsBump, setChanged_congr same, setChanged_self, same.changes]
  rfl

/-- A batch that bumps exactly when it is marked. -/
theorem Tracked.countsBump {state : Registry × Bool} (tracked : Tracked start state) :
    CountsBump start (if state.2 then state.1.bumped else state.1) := by
  have marked := tracked.marked
  cases flag : state.2 with
  | false =>
      rw [flag] at marked
      simp only [CountsBump, Bool.false_eq_true, if_false, ← marked]
      exact tracked.progress.changes
  | true =>
      have bumped : setChanged start state.1.bumped = setChanged start state.1 := rfl
      rw [flag] at marked
      simp only [CountsBump, if_true, bumped, ← marked]
      exact congrArg (· + 1) tracked.progress.changes

/-- New children and no bump. -/
theorem not_countsBump (changed : setChanged registry final = true)
    (changes : final.configurationChanges = registry.configurationChanges) :
    ¬CountsBump registry final := by
  rw [CountsBump, changed, changes]
  exact (Nat.lt_succ_self _).ne

/-- Full reconcile, with the creation it uses. -/
def reconcileNowWith (creation : EndpointSpec → Operation Nat) (matter : Matter)
    (desired : List EndpointSpec) (replaceAll : Bool) : Operation PUnit := do
  let registry ← get
  let plan ← orRefuse (planReconcile registry.liveComposition desired replaceAll)
  withLocal false (nudgeOnAbort (applyPlanWith creation matter plan (registry.removals plan)))
  if plan.create ≠ [] ∨ plan.recreate ≠ [] ∨ plan.remove ≠ [] then
    noteConfigurationChange

/-- Create or update one endpoint, with the creation it uses. -/
def upsertWith (creation : EndpointSpec → Operation Nat) (matter : Matter)
    (spec : EndpointSpec) : Operation Nat := do
  match (← get).live.get? spec.indigoDeviceId with
  | none =>
      match (← get).deviceIdFor spec.publishedAs with
      | some _ => upsert matter spec
      | none =>
          let number ← creation spec
          noteConfigurationChange
          return number
  | some existing =>
      if existing.publishedAs = spec.publishedAs ∧ existing.role = spec.role ∧
          spec.battery ∧ ¬existing.battery then
        closeOne matter spec.indigoDeviceId existing
        let number ← tryCatch (creation spec) fun error => do
          noteConfigurationChange
          throw error
        noteConfigurationChange
        return number
      else upsert matter spec

theorem reconcileNowWith_create (desired : List EndpointSpec) (replaceAll : Bool) :
    reconcileNowWith (create matter) matter desired replaceAll =
      reconcileNow matter desired replaceAll := by
  simp only [reconcileNowWith, reconcileNow, applyPlanWith_create]

theorem upsertWith_create (spec : EndpointSpec) :
    upsertWith (create matter) matter spec = upsert matter spec := by
  have started {α : Type} (next : Registry → Operation α) (state : Registry) :
      (get >>= next) state = next state state := rfl
  funext registry
  rw [upsertWith, upsert, started, started]
  cases stored : registry.live.get? spec.indigoDeviceId with
  | none =>
      dsimp only
      rw [started, started]
      cases claimed : registry.deviceIdFor spec.publishedAs with
      | none => rfl
      | some claimedBy => simp only [started, stored, claimed]
  | some existing =>
      by_cases gains : existing.publishedAs = spec.publishedAs ∧ existing.role = spec.role ∧
          spec.battery = true ∧ ¬existing.battery = true
      · rcases gains with ⟨identity, role, gain⟩
        simp only [identity, role, gain.1, gain.2, Bool.false_eq_true, not_false_eq_true, and_self, if_true, ne_eq,
          not_true_eq_false, if_false]
      · simp only [gains, if_false, started, stored]

/-- Parse the arguments of a command and run it, with the creation it uses. -/
def Command.runWith (creation : EndpointSpec → Operation Nat) (matter : Matter) :
    Command → Operation PUnit
  | .reconcile endpoints replaceAll => do
      let desired ← orRefuse (parseEndpointSpecs endpoints)
      reconcileNowWith creation matter desired replaceAll
  | .upsert endpoint => do
      let spec ← orRefuse (parseEndpointSpec endpoint)
      let _ ← upsertWith creation matter spec
  | .remove indigoDeviceId => do
      let _ ← Bridge.remove matter indigoDeviceId

/-- With the creation that always cleans up, this is the command. -/
theorem Command.runWith_create (command : Command) :
    command.runWith (create matter) matter = command.run matter := by
  cases command with
  | reconcile endpoints replaceAll =>
      simp only [Command.runWith, Command.run, reconcileNowWith_create]
  | upsert endpoint => simp only [Command.runWith, Command.run, upsertWith_create]
  | remove indigoDeviceId => rfl

/-! ## Which commands count -/

/-- Whether a reconcile leaves a new child without a bump: nothing is closed before, the
rekeys go through, and the first creation strands its endpoint. -/
def reconcileMisses (matter : CleaningMatter) (registry : Registry) (desired : List EndpointSpec)
    (replaceAll : Bool) : Bool :=
  match planReconcile registry.liveComposition desired replaceAll with
  | .error _ => false
  | .ok plan =>
      plan.remove.isEmpty && plan.recreate.isEmpty &&
        rekeysLand matter.toMatter registry plan.rekey && strandsFirst matter plan.create

/-- Whether an upsert does: it creates, and the creation strands its endpoint. -/
def upsertMisses (matter : CleaningMatter) (registry : Registry) (spec : EndpointSpec) : Bool :=
  (registry.live.get? spec.indigoDeviceId).isNone &&
    (registry.deviceIdFor spec.publishedAs).isNone && strands matter spec

/-- Whether a command leaves a new child without a bump. -/
def Command.misses (matter : CleaningMatter) (registry : Registry) : Command → Bool
  | .reconcile endpoints replaceAll =>
      match parseEndpointSpecs endpoints with
      | .error _ => false
      | .ok desired => reconcileMisses matter registry desired replaceAll
  | .upsert endpoint =>
      match parseEndpointSpec endpoint with
      | .error _ => false
      | .ok spec => upsertMisses matter registry spec
  | .remove _ => false

/-- What a command leaves behind: the children are still anchored, and the version counts
unless the command misses its bump. -/
structure CountsUnless (misses : Bool) (registry final : Registry) : Prop where
  anchored : Anchored [] final
  counts : CountsBump registry final ↔ misses = false

theorem CountsUnless.same (anchored : Anchored [] final) (same : SameSet registry final) :
    CountsUnless false registry final :=
  ⟨anchored, iff_of_true same.countsBump rfl⟩

theorem CountsUnless.tracked {state : Registry × Bool} (tracked : Tracked start state) :
    CountsUnless false start (if state.2 then state.1.bumped else state.1) := by
  refine ⟨?_, iff_of_true tracked.countsBump rfl⟩
  split
  · exact tracked.anchored.bump
  · exact tracked.anchored

/-- A published identity has a driving device. -/
theorem deviceIdFor_isSome {publishedAs : String}
    (published : publishedAs ∈ registry.liveComposition.keys) :
    (registry.deviceIdFor publishedAs).isSome = true := by
  rw [Registry.liveComposition, InsertionMap.mem_keys_ofList] at published
  rcases List.mem_map.mp published with ⟨composed, mem, rfl⟩
  rcases List.mem_map.mp mem with ⟨entry, stored, rfl⟩
  apply Option.isSome_iff_ne_none.mpr
  intro unclaimed
  exact deviceIdFor_eq_none_iff.mp unclaimed _ _ (InsertionMap.mem_entries_iff.mp stored) rfl

/-- A plan closes nothing exactly when it removes and recreates nothing. -/
theorem removals_eq_nil_iff {desired : List EndpointSpec} :
    registry.removals (registry.plan desired) = [] ↔
      (registry.plan desired).remove = [] ∧ (registry.plan desired).recreate = [] := by
  rw [Registry.removals, List.append_eq_nil_iff, List.filterMap_eq_nil_iff,
    List.filterMap_eq_nil_iff]
  constructor
  · rintro ⟨removed, recreated⟩
    constructor
    · apply List.eq_nil_iff_forall_not_mem.mpr
      intro publishedAs mem
      have published := deviceIdFor_isSome (List.mem_of_mem_filter mem)
      rw [removed publishedAs mem] at published
      cases published
    · apply List.eq_nil_iff_forall_not_mem.mpr
      intro spec mem
      rcases mem_recreate_iff.mp mem with ⟨-, bucket⟩
      rcases bucketOf_eq_recreate_iff.mp bucket with ⟨live, stored, -⟩
      have published := deviceIdFor_isSome (InsertionMap.mem_keys_iff.mpr ⟨live, stored⟩)
      rw [recreated spec mem] at published
      cases published
  · rintro ⟨removed, recreated⟩
    rw [removed, recreated]
    exact ⟨fun _ mem => absurd mem List.not_mem_nil, fun _ mem => absurd mem List.not_mem_nil⟩

/-- The buckets a finished reconcile bumps for are the ones that have marked the batch. -/
theorem planChanges_iff {desired : List EndpointSpec} :
    ((registry.plan desired).create ≠ [] ∨ (registry.plan desired).recreate ≠ [] ∨
        (registry.plan desired).remove ≠ []) ↔
      (!(registry.removals (registry.plan desired)).isEmpty ||
        !((registry.plan desired).create ++ (registry.plan desired).recreate).isEmpty) = true := by
  simp only [Bool.or_eq_true, Bool.not_eq_true', List.isEmpty_eq_false_iff, ne_eq,
    removals_eq_nil_iff, List.append_eq_nil_iff]
  tauto

theorem reconcileNow_counts {matter : CleaningMatter} (anchored : Anchored [] registry)
    {desired : List EndpointSpec} (distinct : Distinct desired) {replaceAll : Bool} :
    wp (reconcileNowWith (createCleaning matter) matter.toMatter desired replaceAll)
      (fun _ final => CountsUnless (reconcileMisses matter registry desired replaceAll)
        registry final)
      (fun _ final => CountsUnless (reconcileMisses matter registry desired replaceAll)
        registry final) registry := by
  simp only [reconcileNowWith, wp_bind, wp_get, wp_orRefuse]
  constructor
  case right =>
    intro error refused
    rw [reconcileMisses, refused]
    exact .same anchored (.refl registry)
  intro plan planned
  have misses : reconcileMisses matter registry desired replaceAll =
      (plan.remove.isEmpty && plan.recreate.isEmpty &&
        rekeysLand matter.toMatter registry plan.rekey && strandsFirst matter plan.create) := by
    rw [reconcileMisses, planned]
  obtain rfl := eq_sortDesired_of_planReconcile planned
  rw [misses]
  have live : ∀ indigoDeviceId ∈ registry.removals (registry.plan desired),
      (registry.live.get? indigoDeviceId).isSome = true := by
    intro indigoDeviceId mem
    rcases removal_live distinct mem with ⟨entry, stored, -⟩
    rw [stored]
    rfl
  simp only [wp_withLocal, nudgeOnAbort, wp_tryCatch]
  set plan := registry.plan desired with planEq
  cases missed : plan.remove.isEmpty && plan.recreate.isEmpty &&
      rekeysLand matter.toMatter registry plan.rekey && strandsFirst matter plan.create with
  | true =>
      simp only [Bool.and_eq_true, List.isEmpty_iff] at missed
      rcases missed with ⟨⟨⟨noRemove, noRecreate⟩, landed⟩, stranded⟩
      have none : registry.removals plan = [] := removals_eq_nil_iff.mpr ⟨noRemove, noRecreate⟩
      have stranded' : strandsFirst matter (plan.create ++ plan.recreate) = true := by
        rw [noRecreate, List.append_nil]
        exact stranded
      rw [none]
      refine wp_mono (applyPlan_strands anchored landed stranded') ?_ ?_
      · rintro _ _ ⟨⟩
      · rintro error ⟨final, mutated⟩ ⟨kept, unmarked, changed, changes⟩
        obtain rfl : mutated = false := unmarked
        refine ⟨kept, ?_⟩
        exact iff_of_false (not_countsBump changed changes) (by decide)
  | false =>
      have spared : registry.removals plan ≠ [] ∨
          rekeysLand matter.toMatter registry plan.rekey = false ∨
          strandsFirst matter (plan.create ++ plan.recreate) = false := by
        by_cases none : registry.removals plan = []
        · have nothing : plan.remove = [] ∧ plan.recreate = [] := removals_eq_nil_iff.mp none
          rcases nothing with ⟨noRemove, noRecreate⟩
          simp only [noRemove, noRecreate, List.isEmpty_nil, Bool.true_and,
            Bool.and_eq_false_iff] at missed
          rw [noRecreate, List.append_nil]
          exact Or.inr missed
        · exact Or.inl none
      refine wp_mono (applyPlan_tracked anchored live spared) ?_ ?_
      · rintro _ ⟨final, mutated⟩ ⟨tracked, flag⟩
        have bumps : (plan.create ≠ [] ∨ plan.recreate ≠ [] ∨ plan.remove ≠ []) ↔
            mutated = true := by
          dsimp only at flag
          rw [flag, planChanges_iff]
        have counted := CountsUnless.tracked tracked
        cases mutated with
        | false =>
            rw [if_neg (fun some => Bool.false_ne_true (bumps.mp some))]
            exact counted
        | true =>
            rw [if_pos (bumps.mpr rfl)]
            exact counted
      · rintro error ⟨final, mutated⟩ tracked
        have counted := CountsUnless.tracked tracked
        cases mutated with
        | false => exact counted
        | true => exact counted

/-- An upsert of a live device that does not gain a battery refuses or updates. -/
theorem upsert_anchored (anchored : Anchored [] registry) {spec : EndpointSpec}
    {existing : LiveEndpoint} (stored : registry.live.get? spec.indigoDeviceId = some existing)
    (stays : ¬(existing.publishedAs = spec.publishedAs ∧ existing.role = spec.role ∧
      spec.battery = true ∧ ¬existing.battery = true)) :
    wp (upsert matter spec)
      (fun _ final => Anchored [] final ∧ SameSet registry final)
      (fun _ final => Anchored [] final ∧ SameSet registry final) registry := by
  have unchanged : Anchored [] registry ∧ SameSet registry registry := ⟨anchored, .refl registry⟩
  simp only [upsert, wp_bind, wp_get, stored]
  by_cases identity : existing.publishedAs = spec.publishedAs
  · by_cases role : existing.role = spec.role
    · have gain : ¬(spec.battery = true ∧ ¬existing.battery = true) := by
        intro gains
        exact stays ⟨identity, role, gains⟩
      simp only [identity, role, gain, ne_eq, not_true_eq_false, if_false, wp_bind]
      refine wp_mono (update_anchored anchored) ?_ (fun _ _ thrown => thrown)
      intro _ final kept
      rw [wp_bind, wp_get]
      cases final.children.get? existing.endpoint with
      | none => exact kept
      | some endpoint => exact kept
    · simpa [identity, role] using unchanged
  · simpa [identity] using unchanged

theorem upsert_counts {matter : CleaningMatter} (anchored : Anchored [] registry)
    {spec : EndpointSpec} :
    wp (upsertWith (createCleaning matter) matter.toMatter spec)
      (fun _ final => CountsUnless (upsertMisses matter registry spec) registry final)
      (fun _ final => CountsUnless (upsertMisses matter registry spec) registry final)
      registry := by
  have bounded := tracked_self anchored
  simp only [upsertWith, wp_bind, wp_get]
  cases stored : registry.live.get? spec.indigoDeviceId with
  | none =>
      simp only [wp_bind, wp_get]
      cases claimed : registry.deviceIdFor spec.publishedAs with
      | some claimedBy =>
          have spared : upsertMisses matter registry spec = false := by
            simp [upsertMisses, claimed]
          rw [spared]
          simp only [upsert, wp_bind, wp_get, stored, claimed, wp_throw]
          exact .same anchored (.refl registry)
      | none =>
          have misses : upsertMisses matter registry spec = strands matter spec := by
            simp [upsertMisses, stored, claimed]
          rw [misses, wp_bind]
          refine wp_mono (createCleaning_anchored anchored) ?_ ?_
          · rintro _ created ⟨adds, spared⟩
            rw [spared]
            exact CountsUnless.tracked (bounded.adds anchored adds)
          · intro _ final thrown
            cases stranded : strands matter spec with
            | false =>
                rw [stranded] at thrown
                exact .same thrown.1 thrown.2
            | true =>
                rw [stranded] at thrown
                have added : Tracked registry (final, true) := bounded.adds anchored thrown
                refine ⟨added.anchored, iff_of_false ?_ (by decide)⟩
                exact not_countsBump added.marked.symm added.progress.changes
  | some existing =>
      have spared : upsertMisses matter registry spec = false := by simp [upsertMisses, stored]
      rw [spared]
      dsimp only
      split
      · rw [wp_bind]
        refine wp_mono (closeOne_anchored anchored stored) ?_ ?_
        · rintro _ closed ⟨kept, child, -, children, next, changes⟩
          have earlier := anchored.bounded _ child
          rcases bounded.progress.close child earlier children next changes with
            ⟨progress, changed⟩
          have tracked : Tracked registry (closed, true) := ⟨kept, progress, changed.symm⟩
          rw [wp_bind, wp_tryCatch]
          refine wp_mono (createCleaning_anchored kept) ?_ ?_
          · rintro _ created ⟨adds, -⟩
            exact CountsUnless.tracked (tracked.adds anchored adds)
          · intro _ final thrown
            split at thrown
            · exact CountsUnless.tracked (tracked.adds anchored thrown)
            · exact CountsUnless.tracked (tracked.same thrown.1 thrown.2)
        · rintro _ final ⟨kept, same⟩
          exact .same kept same
      · rename_i stays
        refine wp_mono (upsert_anchored anchored stored stays) ?_ ?_
        · rintro _ final ⟨kept, same⟩
          exact .same kept same
        · rintro _ final ⟨kept, same⟩
          exact .same kept same

theorem remove_counts (anchored : Anchored [] registry) {indigoDeviceId : Int} :
    wp (remove matter indigoDeviceId)
      (fun _ final => CountsUnless false registry final)
      (fun _ final => CountsUnless false registry final) registry := by
  simp only [remove, wp_bind, wp_get]
  cases stored : registry.live.get? indigoDeviceId with
  | none => exact .same anchored (.refl registry)
  | some live =>
      rw [wp_bind]
      refine wp_mono (closeOne_anchored anchored stored) ?_ ?_
      · rintro _ closed ⟨kept, child, -, children, next, changes⟩
        have earlier := anchored.bounded _ child
        rcases (Progress.refl registry).close child earlier children next changes with
          ⟨progress, changed⟩
        have tracked : Tracked registry (closed, true) := ⟨kept, progress, changed.symm⟩
        exact CountsUnless.tracked tracked
      · rintro _ final ⟨kept, same⟩
        exact .same kept same

theorem command_counts {matter : CleaningMatter} (anchored : Anchored [] registry)
    (command : Command) :
    CountsUnless (command.misses matter registry) registry
      (finalState (command.runWith (createCleaning matter) matter.toMatter registry)) := by
  apply final_of_wp (CountsUnless (command.misses matter registry) registry)
  have unchanged : CountsUnless false registry registry := .same anchored (.refl registry)
  cases command with
  | reconcile endpoints replaceAll =>
      simp only [Command.runWith, wp_bind, wp_orRefuse, Command.misses]
      constructor
      · intro desired accepted
        rw [accepted]
        exact reconcileNow_counts anchored (distinct_of_parseEndpointSpecs accepted)
      · intro error refused
        rw [refused]
        exact unchanged
  | upsert endpoint =>
      simp only [Command.runWith, wp_bind, wp_orRefuse, Command.misses]
      constructor
      · intro spec accepted
        rw [accepted]
        exact upsert_counts anchored
      · intro error refused
        rw [refused]
        exact unchanged
  | remove indigoDeviceId =>
      simp only [Command.runWith, wp_bind, Command.misses]
      exact remove_counts anchored

/-! ## Runs -/

/-- Rebuild the endpoints of the persisted map; one that fails is skipped, even where its
endpoint stays behind. -/
def restoreCleaning (matter : CleaningMatter) (specs : List EndpointSpec) : Operation PUnit :=
  forM specs fun spec =>
    tryCatch (do let _ ← createCleaning matter spec) fun _ => pure ⟨⟩

/-- What a node starts from. -/
def Registry.restoredCleaning (matter : CleaningMatter) (specs : List EndpointSpec) : Registry :=
  finalState (restoreCleaning matter specs Registry.fresh)

/-- One command, together with how matter.js answers during it. -/
def Registry.stepCleaning : LabelledStep Registry (Command × CleaningMatter) :=
  fun registry event =>
    some (finalState (event.1.runWith (createCleaning event.2) event.2.toMatter registry))

theorem restoredCleaning_anchored (matter : CleaningMatter) (specs : List EndpointSpec) :
    Anchored [] (Registry.restoredCleaning matter specs) := by
  apply final_of_wp (Anchored [])
  apply wp_forM (fun _ registry => Anchored [] registry) (fun _ registry => Anchored [] registry)
  · intro spec rest registry anchored
    rw [wp_tryCatch, wp_bind]
    refine wp_mono (createCleaning_anchored anchored) ?_ ?_
    · rintro _ created ⟨adds, -⟩
      exact adds.anchored
    · intro _ final thrown
      split at thrown
      · exact thrown.anchored
      · exact thrown.1
  · exact anchored_fresh

/-- In every state a node reaches, a command moves the version exactly with the children,
unless its first change is a creation that strands its endpoint. -/
theorem configurationVersion_counts_iff {restorer : CleaningMatter} {specs : List EndpointSpec}
    {events : List (Command × CleaningMatter)} {before after : Registry}
    {command : Command} {matter : CleaningMatter}
    (run : Run Registry.stepCleaning (Registry.restoredCleaning restorer specs) events before)
    (step : Registry.stepCleaning before (command, matter) = some after) :
    CountsBump before after ↔ command.misses matter before = false := by
  have anchored : Anchored [] before := by
    refine run.invariant (restoredCleaning_anchored restorer specs) ?_
    rintro registry ⟨command, answers⟩ next holds - taken
    obtain rfl := Option.some.inj taken
    exact (command_counts holds command).anchored
  obtain rfl := Option.some.inj step
  exact (command_counts anchored command).counts

/-! ### Where every clean-up works -/

/-- The same answers, with a clean-up that never throws. -/
def Matter.cleaning (matter : Matter) : CleaningMatter where
  toMatter := matter
  cleanUp _ := none

theorem createCleaning_cleaning (matter : Matter) :
    createCleaning matter.cleaning = create matter := by
  funext spec
  exact createCleaning_eq_create rfl

/-- There a step is the command. -/
theorem stepCleaning_cleaning (registry : Registry) (command : Command) (matter : Matter) :
    Registry.stepCleaning registry (command, matter.cleaning) =
      Registry.step registry (command, matter) := by
  rw [step_eq, ← Command.runWith_create, ← createCleaning_cleaning]
  rfl

theorem restoredCleaning_cleaning (matter : Matter) (specs : List EndpointSpec) :
    Registry.restoredCleaning matter.cleaning specs = Registry.restored matter specs := by
  unfold Registry.restoredCleaning restoreCleaning Registry.restored restore
  rw [createCleaning_cleaning]

theorem strands_cleaning (matter : Matter) (spec : EndpointSpec) :
    strands matter.cleaning spec = false := by
  simp [strands, Matter.cleaning]

/-- There no command misses its bump. -/
theorem misses_cleaning (command : Command) (matter : Matter) :
    command.misses matter.cleaning registry = false := by
  cases command with
  | reconcile endpoints replaceAll =>
      have first (specs : List EndpointSpec) : strandsFirst matter.cleaning specs = false := by
        cases specs with
        | nil => rfl
        | cons spec _ => exact strands_cleaning matter spec
      simp only [Command.misses, reconcileMisses, first, Bool.and_false]
      cases parseEndpointSpecs endpoints with
      | error _ => rfl
      | ok desired =>
          dsimp only
          cases planReconcile registry.liveComposition desired replaceAll <;> rfl
  | upsert endpoint =>
      simp only [Command.misses, upsertMisses, strands_cleaning, Bool.and_false]
      cases parseEndpointSpec endpoint <;> rfl
  | remove _ => rfl

/-- In every run in which each clean-up works, each command moves the version exactly with
the children. -/
theorem countsBump_of_working_cleanUps {restorer matter : Matter} {specs : List EndpointSpec}
    {events : List (Command × Matter)} {before after : Registry} {command : Command}
    (run : Run Registry.step (Registry.restored restorer specs) events before)
    (step : Registry.step before (command, matter) = some after) :
    CountsBump before after := by
  have anchored : Anchored [] before := by
    refine run.invariant ?_ ?_
    · rw [← restoredCleaning_cleaning]
      exact restoredCleaning_anchored restorer.cleaning specs
    · rintro registry ⟨command, answers⟩ next holds - taken
      rw [← stepCleaning_cleaning] at taken
      obtain rfl := Option.some.inj taken
      exact (command_counts holds command).anchored
  rw [← stepCleaning_cleaning] at step
  obtain rfl := Option.some.inj step
  exact (command_counts anchored command).counts.mpr (misses_cleaning command matter)

/-! ### Where one throws -/

/-- matter.js when the commands of one endpoint cannot be watched. -/
def CleaningMatter.unwatched (indigoDeviceId : Int) (id : String) (cleanUp : Option String) :
    CleaningMatter where
  toMatter := .failing (.watchCommands id indigoDeviceId)
  cleanUp _ := cleanUp

/-- A reconcile that removes one light and fails to add another is counted. -/
theorem half_applied_reconcile_counts :
    let matter := CleaningMatter.unwatched 2 "indigo-2" (some "refused")
    let before := Registry.restoredCleaning matter [lightSpec 1 "indigo-1"]
    let command := Command.reconcile (some (.array [lightJson 2 "indigo-2"])) true
    CountsBump before
      (finalState (command.runWith (createCleaning matter) matter.toMatter before)) := by
  intro matter before command
  have spared : command.misses matter before = false := by decide
  exact (configurationVersion_counts_iff .nil rfl).mpr spared

/-- An upsert that cannot watch its new endpoint, and cannot close it again, adds a child
that no controller is told of. -/
theorem stranded_creation_goes_uncounted :
    ¬ ∀ (restorer : CleaningMatter) (specs : List EndpointSpec)
        (events : List (Command × CleaningMatter)) (before after : Registry)
        (command : Command) (matter : CleaningMatter),
      Run Registry.stepCleaning (Registry.restoredCleaning restorer specs) events before →
        Registry.stepCleaning before (command, matter) = some after →
          CountsBump before after := by
  intro claimed
  let matter := CleaningMatter.unwatched 1 "indigo-1" (some "refused")
  have counted := claimed matter [] [] _ _ (.upsert (lightJson 1 "indigo-1")) matter .nil rfl
  revert counted
  decide

end IndigoMatter.Bridge
