import IndigoMatter.Bridge.Reconcile

/-!
# The plan as a partition

What `planReconcile` makes of a desired list: every spec lands in one bucket, the
identities nobody desires are removed, and the mass-removal guard refuses just
the plans that leave no device exported.  The guard counts, so its meaning is
read off two counts that have to be zero together.
-/

namespace IndigoMatter.Bridge

open IndigoMatter.Library

variable {live : InsertionMap String LiveComposition} {desired : List EndpointSpec}

/-! ## Buckets -/

/-- Every spec of a plan that is not a removal, bucket after bucket. -/
def ReconcilePlan.specs (plan : ReconcilePlan) : List EndpointSpec :=
  plan.create ++ plan.update ++ plan.recreate ++ plan.rekey.map Rekey.spec

/-- Each desired spec goes to one bucket. -/
theorem specs_sortDesired_perm (live : InsertionMap String LiveComposition)
    (desired : List EndpointSpec) : (sortDesired live desired).specs.Perm desired := by
  induction desired with
  | nil => exact .nil
  | cons spec rest ih =>
      cases bucket : bucketOf live spec with
      | create =>
          have first : (sortDesired live (spec :: rest)).specs =
              spec :: (sortDesired live rest).specs := by
            simp [sortDesired, ReconcilePlan.specs, rekeyOf, bucket]
          rw [first]
          exact ih.cons spec
      | update =>
          have middle : (sortDesired live (spec :: rest)).specs =
              (sortDesired live rest).create ++ spec :: ((sortDesired live rest).update ++
                (sortDesired live rest).recreate ++
                (sortDesired live rest).rekey.map Rekey.spec) := by
            simp [sortDesired, ReconcilePlan.specs, rekeyOf, bucket]
          rw [middle]
          apply List.perm_middle.trans
          simpa [ReconcilePlan.specs] using ih.cons spec
      | recreate =>
          have middle : (sortDesired live (spec :: rest)).specs =
              ((sortDesired live rest).create ++ (sortDesired live rest).update) ++
                spec :: ((sortDesired live rest).recreate ++
                (sortDesired live rest).rekey.map Rekey.spec) := by
            simp [sortDesired, ReconcilePlan.specs, rekeyOf, bucket]
          rw [middle]
          apply List.perm_middle.trans
          simpa [ReconcilePlan.specs] using ih.cons spec
      | rekey fromDeviceId =>
          have middle : (sortDesired live (spec :: rest)).specs =
              ((sortDesired live rest).create ++ (sortDesired live rest).update ++
                (sortDesired live rest).recreate) ++
                spec :: (sortDesired live rest).rekey.map Rekey.spec := by
            simp [sortDesired, ReconcilePlan.specs, rekeyOf, bucket]
          rw [middle]
          apply List.perm_middle.trans
          exact ih.cons spec

theorem mem_remove_iff {publishedAs : String} :
    publishedAs ∈ (sortDesired live desired).remove ↔
      publishedAs ∈ live.keys ∧ publishedAs ∉ desired.map EndpointSpec.publishedAs := by
  simp [sortDesired]

theorem nodup_remove : (sortDesired live desired).remove.Nodup :=
  live.keys_nodup.filter _

/-! ## The guard -/

/-- What is not removed is desired. -/
theorem size_eq_kept_add_remove :
    live.size = (live.keys.filter fun publishedAs =>
        decide (publishedAs ∈ desired.map EndpointSpec.publishedAs)).length +
      (sortDesired live desired).remove.length := by
  have total := List.length_eq_length_filter_add (l := live.keys)
    (fun publishedAs => decide (publishedAs ∈ desired.map EndpointSpec.publishedAs))
  simp only [← decide_not] at total
  rw [InsertionMap.size, ← List.length_map Prod.fst]
  exact total

/-- No live identity stays. -/
def NoneKept (live : InsertionMap String LiveComposition) (desired : List EndpointSpec) : Prop :=
  ∀ publishedAs ∈ live.keys, publishedAs ∉ desired.map EndpointSpec.publishedAs

/-- No device of a removed identity is among those an accessory is created for. -/
def NoneReexported (live : InsertionMap String LiveComposition) (desired : List EndpointSpec) :
    Prop :=
  ∀ publishedAs removed, live.get? publishedAs = some removed →
    publishedAs ∉ desired.map EndpointSpec.publishedAs →
    ∀ spec ∈ desired, live.get? spec.publishedAs = none →
      spec.indigoDeviceId ≠ removed.indigoDeviceId

theorem kept_eq_zero_iff :
    (live.keys.filter fun publishedAs =>
        decide (publishedAs ∈ desired.map EndpointSpec.publishedAs)).length = 0 ↔
      NoneKept live desired := by
  rw [List.length_eq_zero_iff, List.filter_eq_nil_iff]
  simp [NoneKept]

theorem stillExportedCount_eq_zero_iff :
    stillExportedCount live (sortDesired live desired) = 0 ↔ NoneReexported live desired := by
  rw [stillExportedCount, List.length_eq_zero_iff, List.filter_eq_nil_iff]
  constructor
  · intro none publishedAs removed found undesired spec wanted absent same
    have leaves := none publishedAs (mem_remove_iff.mpr
      ⟨InsertionMap.mem_keys_iff.mpr ⟨removed, found⟩, undesired⟩)
    rw [found] at leaves
    apply leaves
    rw [decide_eq_true_eq, ← same]
    exact List.mem_map_of_mem (mem_create_iff.mpr ⟨wanted, bucketOf_eq_create_iff.mpr absent⟩)
  · intro none publishedAs member
    rcases mem_remove_iff.mp member with ⟨_, undesired⟩
    cases found : live.get? publishedAs with
    | none => simp
    | some removed =>
        simp only [decide_eq_true_eq]
        intro created
        rcases List.mem_map.mp created with ⟨spec, planned, same⟩
        rcases mem_create_iff.mp planned with ⟨wanted, bucket⟩
        exact none publishedAs removed found undesired spec wanted
          (bucketOf_eq_create_iff.mp bucket) same

/-- There are no survivors when nothing is kept and nothing exported again. -/
theorem survivors_eq_zero_iff :
    (live.size : Int) - (sortDesired live desired).remove.length +
        stillExportedCount live (sortDesired live desired) = 0 ↔
      NoneKept live desired ∧ NoneReexported live desired := by
  rw [← kept_eq_zero_iff, ← stillExportedCount_eq_zero_iff]
  have total := @size_eq_kept_add_remove live desired
  omega

/-! ## The plan -/

/-- What a plan does with the desired specs and the live identities. -/
structure Partition (live : InsertionMap String LiveComposition) (desired : List EndpointSpec)
    (plan : ReconcilePlan) : Prop where
  /-- Every desired spec is in one bucket, once. -/
  specs : plan.specs.Perm desired
  /-- No identity is removed twice. -/
  removedOnce : plan.remove.Nodup
  /-- The live identities that are not desired are removed, and no others. -/
  removed : ∀ publishedAs, publishedAs ∈ plan.remove ↔
    publishedAs ∈ live.keys ∧ publishedAs ∉ desired.map EndpointSpec.publishedAs
  /-- An update keeps role and device, and gains no battery. -/
  updated : ∀ spec ∈ plan.update, ∃ liveEndpoint,
    live.get? spec.publishedAs = some liveEndpoint ∧ liveEndpoint.role = spec.role ∧
      (spec.battery → liveEndpoint.battery) ∧ liveEndpoint.indigoDeviceId = spec.indigoDeviceId
  /-- A rekey is an update but for the device, and knows the one it leaves. -/
  rekeyed : ∀ rekey ∈ plan.rekey, ∃ liveEndpoint,
    live.get? rekey.spec.publishedAs = some liveEndpoint ∧
      liveEndpoint.role = rekey.spec.role ∧ (rekey.spec.battery → liveEndpoint.battery) ∧
      liveEndpoint.indigoDeviceId = rekey.fromDeviceId ∧
      rekey.fromDeviceId ≠ rekey.spec.indigoDeviceId

theorem partition_sortDesired : Partition live desired (sortDesired live desired) where
  specs := specs_sortDesired_perm live desired
  removedOnce := nodup_remove
  removed := fun _ => mem_remove_iff
  updated := fun _ planned => bucketOf_eq_update_iff.mp (mem_update_iff.mp planned).2
  rekeyed := fun _ planned => bucketOf_eq_rekey_iff.mp (mem_rekey_iff.mp planned).2

/-- The planner refuses what would leave no device exported, unless that is meant,
and otherwise sorts every desired spec and every live identity. -/
theorem planReconcile_partitions (live : InsertionMap String LiveComposition)
    (desired : List EndpointSpec) (replaceAll : Bool) :
    ((∃ details, planReconcile live desired replaceAll =
        .error ⟨.massRemovalRefused, details⟩) ↔
      replaceAll = false ∧ 0 < live.size ∧ NoneKept live desired ∧
        NoneReexported live desired) ∧
    ((∃ details, planReconcile live desired replaceAll =
        .error ⟨.massRemovalRefused, details⟩) ∨
      ∃ plan, planReconcile live desired replaceAll = .ok plan ∧
        Partition live desired plan) := by
  rw [← survivors_eq_zero_iff]
  unfold planReconcile
  dsimp only
  split
  · rename_i refused
    constructor
    · constructor
      · intro _
        exact ⟨Bool.eq_false_iff.mpr refused.2.2, refused.1, refused.2.1⟩
      · intro _
        exact ⟨_, rfl⟩
    · exact .inl ⟨_, rfl⟩
  · rename_i planned
    constructor
    · constructor
      · rintro ⟨_, refused⟩
        cases refused
      · rintro ⟨unmeant, populated, empties⟩
        exact absurd ⟨populated, empties, Bool.eq_false_iff.mp unmeant⟩ planned
    · exact .inr ⟨_, rfl, partition_sortDesired⟩

end IndigoMatter.Bridge
