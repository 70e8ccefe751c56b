import IndigoMatter.Bridge.Node

/-!
# What the parts of a node command do

The endpoint map is described one identity at a time: what a command leaves of
the record of an identity depends on whether the identity is published after
the registry part, and on whether it was published at the snapshot.
-/

namespace IndigoMatter.Bridge

open IndigoMatter.Library

/-! ## Published identities -/

/-- An entry other than that of `indigoDeviceId` publishes the identity. -/
def PublishedElsewhere (live : InsertionMap Int LiveEndpoint) (indigoDeviceId : Int)
    (publishedAs : String) : Prop :=
  ∃ other, other ≠ indigoDeviceId ∧
    ∃ entry, live.get? other = some entry ∧ entry.publishedAs = publishedAs

/-- Some live endpoint publishes the identity. -/
def Registry.Publishes (registry : Registry) (publishedAs : String) : Prop :=
  ∃ indigoDeviceId live, registry.live.get? indigoDeviceId = some live ∧
    live.publishedAs = publishedAs

section Published

variable {registry final : Registry} {indigoDeviceId : Int} {live : LiveEndpoint}
  {publishedAs : String}

theorem publishes_iff_deviceIdFor :
    registry.Publishes publishedAs ↔ (registry.deviceIdFor publishedAs).isSome := by
  rw [← not_iff_not, Bool.not_eq_true, Option.isSome_eq_false_iff, Option.isNone_iff_eq_none,
    deviceIdFor_eq_none_iff]
  simp [Registry.Publishes]

theorem publishes_of_get? (stored : registry.live.get? indigoDeviceId = some live) :
    registry.Publishes publishedAs ↔
      live.publishedAs = publishedAs ∨
        PublishedElsewhere registry.live indigoDeviceId publishedAs := by
  constructor
  · rintro ⟨other, entry, found, same⟩
    by_cases here : other = indigoDeviceId
    · subst here
      obtain rfl : live = entry := Option.some.inj (stored.symm.trans found)
      exact .inl same
    · exact .inr ⟨other, here, entry, found, same⟩
  · rintro (same | ⟨other, -, entry, found, same⟩)
    · exact ⟨indigoDeviceId, live, stored, same⟩
    · exact ⟨other, entry, found, same⟩

theorem publishes_of_free (free : indigoDeviceId ∉ registry.live.keys) :
    registry.Publishes publishedAs ↔
      PublishedElsewhere registry.live indigoDeviceId publishedAs := by
  constructor
  · rintro ⟨other, entry, found, same⟩
    refine ⟨other, ?_, entry, found, same⟩
    rintro rfl
    exact free (InsertionMap.mem_keys_iff.mpr ⟨entry, found⟩)
  · rintro ⟨other, -, entry, found, same⟩
    exact ⟨other, entry, found, same⟩

theorem publishes_set (liveEq : final.live = registry.live.set indigoDeviceId live) :
    final.Publishes publishedAs ↔
      live.publishedAs = publishedAs ∨
        PublishedElsewhere registry.live indigoDeviceId publishedAs := by
  constructor
  · rintro ⟨other, entry, found, same⟩
    rw [liveEq, InsertionMap.get?_set] at found
    split at found
    · cases found
      exact .inl same
    · rename_i different
      exact .inr ⟨other, different, entry, found, same⟩
  · rintro (same | ⟨other, different, entry, found, same⟩)
    · exact ⟨indigoDeviceId, live, by rw [liveEq, InsertionMap.get?_set_self], same⟩
    · exact ⟨other, entry, by rw [liveEq, InsertionMap.get?_set, if_neg different, found], same⟩

theorem publishes_rewrite {live' : LiveEndpoint}
    (stored : registry.live.get? indigoDeviceId = some live)
    (liveEq : final.live = registry.live.set indigoDeviceId live')
    (same : live'.publishedAs = live.publishedAs) :
    final.Publishes publishedAs ↔ registry.Publishes publishedAs := by
  rw [publishes_set liveEq, publishes_of_get? stored, same]

theorem publishes_delete (liveEq : final.live = registry.live.delete indigoDeviceId) :
    final.Publishes publishedAs ↔
      PublishedElsewhere registry.live indigoDeviceId publishedAs := by
  constructor
  · rintro ⟨other, entry, found, same⟩
    rw [liveEq, InsertionMap.get?_delete] at found
    split at found
    · contradiction
    · rename_i different
      exact ⟨other, different, entry, found, same⟩
  · rintro ⟨other, different, entry, found, same⟩
    exact ⟨other, entry, by rw [liveEq, InsertionMap.get?_delete, if_neg different, found], same⟩

theorem publishes_congr (liveEq : final.live = registry.live) :
    final.Publishes publishedAs ↔ registry.Publishes publishedAs := by
  rw [Registry.Publishes, Registry.Publishes, liveEq]

/-- Every published identity is listed for the map, with its device. -/
theorem mem_liveIdentities_iff {entry : LiveEndpointNumber} :
    entry ∈ registry.liveIdentities ↔
      ∃ indigoDeviceId live, registry.live.get? indigoDeviceId = some live ∧
        entry =
          { uniqueId := live.publishedAs
            endpointNumber :=
              ((registry.children.get? live.endpoint).map Endpoint.number).getD 0
            role := some live.role.name
            label := some live.label
            battery := live.battery
            deviceId := some indigoDeviceId } := by
  simp only [Registry.liveIdentities, Registry.identities, List.mem_map, List.mem_insertionSort]
  constructor
  · rintro ⟨identity, ⟨⟨indigoDeviceId, live⟩, member, rfl⟩, rfl⟩
    exact ⟨indigoDeviceId, live, InsertionMap.mem_entries_iff.mp member, rfl⟩
  · rintro ⟨indigoDeviceId, live, stored, rfl⟩
    exact ⟨_, ⟨(indigoDeviceId, live), InsertionMap.mem_entries_iff.mpr stored, rfl⟩, rfl⟩

theorem mem_uniqueIds_iff :
    publishedAs ∈ registry.liveIdentities.map LiveEndpointNumber.uniqueId ↔
      registry.Publishes publishedAs := by
  simp only [List.mem_map, mem_liveIdentities_iff]
  constructor
  · rintro ⟨_, ⟨indigoDeviceId, live, stored, rfl⟩, rfl⟩
    exact ⟨indigoDeviceId, live, stored, rfl⟩
  · rintro ⟨indigoDeviceId, live, stored, rfl⟩
    exact ⟨_, ⟨indigoDeviceId, live, stored, rfl⟩, rfl⟩

theorem mem_snapshot_iff :
    publishedAs ∈ registry.livePublishedIdentities.keys ↔ registry.Publishes publishedAs := by
  rw [Registry.livePublishedIdentities, InsertionMap.mem_keys_ofList]
  simp only [Registry.identities, List.map_map, List.mem_map, List.mem_insertionSort,
    Function.comp_apply]
  constructor
  · rintro ⟨_, ⟨⟨indigoDeviceId, live⟩, member, rfl⟩, rfl⟩
    exact ⟨indigoDeviceId, live, InsertionMap.mem_entries_iff.mp member, rfl⟩
  · rintro ⟨indigoDeviceId, live, stored, rfl⟩
    exact ⟨_, ⟨(indigoDeviceId, live), InsertionMap.mem_entries_iff.mpr stored, rfl⟩, rfl⟩

end Published

/-! ## The registry part of an upsert -/

/-- Whether an upsert is going to throw. -/
def upsertFails (matter : Matter) (registry : Registry) (spec : EndpointSpec) : Bool :=
  match registry.live.get? spec.indigoDeviceId with
  | none => (registry.deviceIdFor spec.publishedAs).isSome || creationFails matter spec
  | some existing =>
      existing.publishedAs != spec.publishedAs || existing.role != spec.role ||
        if spec.battery && !existing.battery then
          (matter.fault (.close existing.publishedAs)).isSome || creationFails matter spec
        else updateFails matter registry existing spec

/-- Whether an upsert closes a live endpoint and cannot create it again: a
battery gain whose creation throws. -/
def upsertSevers (matter : Matter) (registry : Registry) (spec : EndpointSpec) : Bool :=
  match registry.live.get? spec.indigoDeviceId with
  | none => false
  | some existing =>
      existing.publishedAs == spec.publishedAs && existing.role == spec.role &&
        spec.battery && !existing.battery &&
        (matter.fault (.close existing.publishedAs)).isNone && creationFails matter spec

/-- An upsert that works publishes its identity and otherwise what was published
before; one that throws takes an identity away only when it severs one. -/
theorem upsert_spec {matter : Matter} {registry : Registry} {spec : EndpointSpec} :
    wp (upsert matter spec)
      (fun _ final => upsertFails matter registry spec = false ∧
        ∀ publishedAs, final.Publishes publishedAs ↔
          registry.Publishes publishedAs ∨ publishedAs = spec.publishedAs)
      (fun _ final => upsertFails matter registry spec = true ∧
        (∀ publishedAs, final.Publishes publishedAs → registry.Publishes publishedAs) ∧
        (upsertSevers matter registry spec = false →
          ∀ publishedAs, registry.Publishes publishedAs → final.Publishes publishedAs))
      registry := by
  simp only [upsert, wp_bind, wp_get]
  cases stored : registry.live.get? spec.indigoDeviceId with
  | none =>
      have free : spec.indigoDeviceId ∉ registry.live.keys :=
        InsertionMap.get?_eq_none_iff.mp stored
      simp only [wp_bind, wp_get]
      cases claimed : registry.deviceIdFor spec.publishedAs with
      | some claimedBy => simp [upsertFails, stored, claimed]
      | none =>
          rw [wp_bind]
          refine wp_mono create_spec ?_ ?_
          · rintro number final ⟨works, liveEq, -⟩
            constructor
            · simp [upsertFails, stored, claimed, works]
            · intro publishedAs
              rw [publishes_of_free free]
              exact (publishes_set liveEq).trans
                (or_comm.trans (or_congr_right eq_comm))
          · rintro error final ⟨fails, liveEq, -⟩
            refine ⟨by simp [upsertFails, stored, fails], ?_, ?_⟩
            · exact fun publishedAs => (publishes_congr liveEq).mp
            · exact fun _ publishedAs => (publishes_congr liveEq).mpr
  | some existing =>
      by_cases identity : existing.publishedAs = spec.publishedAs
      · by_cases role : existing.role = spec.role
        · by_cases gain : spec.battery = true ∧ ¬existing.battery = true
          · have gains : (spec.battery && !existing.battery) = true := by simpa using gain
            simp only [identity, role, ne_eq, not_true_eq_false, if_false]
            rw [if_pos gain, wp_bind]
            refine wp_mono closeOne_spec ?_ ?_
            · rintro _ closed ⟨closes, liveEq, -⟩
              rw [wp_bind, wp_tryCatch]
              refine wp_mono create_spec ?_ ?_
              · rintro number final ⟨works, finalEq, -⟩
                constructor
                · simp [upsertFails, stored, identity, role, gains, identity ▸ closes, works]
                · intro publishedAs
                  have here : PublishedElsewhere closed.live spec.indigoDeviceId publishedAs ↔
                      PublishedElsewhere registry.live spec.indigoDeviceId publishedAs := by
                    have free : spec.indigoDeviceId ∉ closed.live.keys := by
                      rw [liveEq]
                      simp
                    rw [← publishes_of_free free, publishes_delete liveEq]
                  rw [publishes_of_get? stored, ← here, identity]
                  refine (publishes_set finalEq).trans ?_
                  change (spec.publishedAs = publishedAs ∨ _) ↔ _
                  tauto
              · rintro error final ⟨fails, finalEq, -⟩
                refine ⟨?_, ?_, ?_⟩
                · simp [upsertFails, stored, identity, role, gains, fails]
                · intro publishedAs published
                  rw [publishes_of_get? stored]
                  exact .inr ((publishes_delete liveEq).mp ((publishes_congr finalEq).mp published))
                · intro severs
                  simp [upsertSevers, stored, identity, role, gain.1, gain.2, fails,
                    identity ▸ closes] at severs
            · rintro error final ⟨fails, ⟨watching, liveEq⟩, -⟩
              have failing : upsertFails matter registry spec = true := by
                rw [← Option.isSome_iff_ne_none] at fails
                simp [upsertFails, stored, gains, fails]
              exact ⟨failing, fun publishedAs => (publishes_rewrite stored liveEq rfl).mp,
                fun _ publishedAs => (publishes_rewrite stored liveEq rfl).mpr⟩
          · have gains : (spec.battery && !existing.battery) = false := by
              rw [Bool.eq_false_iff, ne_eq, Bool.and_eq_true, Bool.not_eq_true']
              exact fun both => gain ⟨both.1, Bool.eq_false_iff.mp both.2⟩
            simp only [identity, role, gain, ne_eq, not_true_eq_false, if_false, wp_bind]
            refine wp_mono (update_spec stored) ?_ ?_
            · rintro _ final ⟨works, liveEq, -⟩
              have published : upsertFails matter registry spec = false ∧
                  ∀ publishedAs, final.Publishes publishedAs ↔
                    registry.Publishes publishedAs ∨ publishedAs = spec.publishedAs := by
                constructor
                · simp [upsertFails, stored, identity, role, gains, works]
                · intro publishedAs
                  have own : publishedAs = spec.publishedAs → registry.Publishes publishedAs :=
                    fun same => ⟨_, existing, stored, identity.trans same.symm⟩
                  rw [publishes_rewrite stored liveEq rfl]
                  tauto
              rw [wp_bind, wp_get]
              cases final.children.get? existing.endpoint <;> exact published
            · rintro error final ⟨fails, ⟨label, liveEq⟩, -⟩
              refine ⟨by simp [upsertFails, stored, identity, role, gains, fails],
                fun publishedAs => (publishes_rewrite stored liveEq rfl).mp,
                fun _ publishedAs => (publishes_rewrite stored liveEq rfl).mpr⟩
        · simp [identity, role, upsertFails, stored]
      · simp [identity, upsertFails, stored]

/-- The registry part of an upsert command. -/
structure UpsertOutcome (matter : Matter) (spec : EndpointSpec) (registry final : Registry)
    (succeeded : Bool) : Prop where
  works : succeeded = !upsertFails matter registry spec
  published : succeeded = true → ∀ publishedAs, final.Publishes publishedAs ↔
    registry.Publishes publishedAs ∨ publishedAs = spec.publishedAs
  kept : upsertSevers matter registry spec = false →
    ∀ publishedAs, registry.Publishes publishedAs → final.Publishes publishedAs

theorem upsertOutcome (matter : Matter) (spec : EndpointSpec) (registry : Registry) :
    UpsertOutcome matter spec registry
      (finalState (NodeCommand.run matter (.upsertEndpoint spec) registry))
      (returned (NodeCommand.run matter (.upsertEndpoint spec) registry)) := by
  have ran : wp (NodeCommand.run matter (.upsertEndpoint spec))
      (fun _ final => UpsertOutcome matter spec registry final true)
      (fun _ final => UpsertOutcome matter spec registry final false) registry := by
    rw [NodeCommand.run, wp_bind]
    refine wp_mono upsert_spec ?_ ?_
    · rintro _ final ⟨works, published⟩
      refine ⟨by simp [works], fun _ => published, fun _ publishedAs before => ?_⟩
      exact (published publishedAs).mpr (.inl before)
    · rintro _ final ⟨fails, -, kept⟩
      exact ⟨by simp [fails], fun impossible => absurd impossible Bool.false_ne_true, kept⟩
  unfold wp at ran
  cases result : NodeCommand.run matter (.upsertEndpoint spec) registry <;>
    simpa [result, returned] using ran

/-! ## The map part of a command -/

namespace Node

variable {disk : Disk} {node : Node} {before : InsertionMap String Int} {hard : Bool}
  {uniqueId : String}

@[simp]
theorem checkDrift_registry : (node.checkDrift disk).registry = node.registry := rfl

@[simp]
theorem checkDrift_lastRemoved : (node.checkDrift disk).lastRemoved = node.lastRemoved := rfl

@[simp]
theorem forgetRemoved_registry :
    (node.forgetRemoved disk before hard).registry = node.registry := by
  simp only [forgetRemoved]
  split <;> rfl

/-- What a check leaves of a live identity: its device, role and label, and no
marker of departure. -/
structure SeenLive (registry : Registry) (uniqueId : String) (record : EndpointRecord) :
    Prop where
  driven : ∃ indigoDeviceId live, registry.live.get? indigoDeviceId = some live ∧
    live.publishedAs = uniqueId ∧ record.deviceId = some indigoDeviceId ∧
    record.role = some live.role.name
  label : record.label.isSome
  orphaned : record.orphaned = false
  supersededBy : record.supersededBy = none
  numberVoid : record.numberVoid = false

theorem seenLive_seenRecord {registry : Registry} {indigoDeviceId : Int} {live : LiveEndpoint}
    (stored : registry.live.get? indigoDeviceId = some live) (found : Option EndpointRecord)
    (number : Nat) (battery : Bool) (label : String) :
    SeenLive registry live.publishedAs
      (seenRecord found
        { uniqueId := live.publishedAs
          endpointNumber := number
          role := some live.role.name
          label := some label
          battery
          deviceId := some indigoDeviceId }) := by
  cases found with
  | none => exact ⟨⟨indigoDeviceId, live, stored, rfl, rfl, rfl⟩, rfl, rfl, rfl, rfl⟩
  | some record =>
      by_cases void : record.numberVoid = true
      · simp only [seenRecord, if_pos void]
        exact ⟨⟨indigoDeviceId, live, stored, rfl, rfl, rfl⟩, rfl, rfl, rfl, rfl⟩
      · simp only [seenRecord, if_neg void]
        exact ⟨⟨indigoDeviceId, live, stored, rfl, rfl, rfl⟩, rfl, rfl, rfl,
          Bool.eq_false_iff.mpr void⟩

/-- A check records every published identity as live. -/
theorem seenLive_checkDrift (published : node.registry.Publishes uniqueId) :
    ∃ record, (node.checkDrift disk).endpointMap.endpoints.get? uniqueId = some record ∧
      SeenLive node.registry uniqueId record := by
  obtain ⟨entry, member, rfl, found, held⟩ :
      ∃ entry ∈ node.registry.liveIdentities, entry.uniqueId = uniqueId ∧ ∃ found,
        (node.endpointMap.endpoints.upsertAll LiveEndpointNumber.uniqueId seenRecord
          node.registry.liveIdentities).get? uniqueId = some (seenRecord found entry) :=
    InsertionMap.get?_upsertAll_of_mem_keys (mem_uniqueIds_iff.mpr published) _
  obtain ⟨indigoDeviceId, live, stored, rfl⟩ := mem_liveIdentities_iff.mp member
  rw [checkDrift, EndpointMapStore.check_endpoints]
  exact ⟨_, held, seenLive_seenRecord stored found _ _ _⟩

/-- A check leaves the record of an identity that is not published alone. -/
theorem get?_checkDrift_of_unpublished (unpublished : ¬node.registry.Publishes uniqueId) :
    (node.checkDrift disk).endpointMap.endpoints.get? uniqueId =
      node.endpointMap.endpoints.get? uniqueId := by
  rw [checkDrift]
  exact EndpointMapStore.get?_check_of_notMem (mt mem_uniqueIds_iff.mp unpublished) _ _

/-- A check moves no number that is not void. -/
theorem number_checkDrift {record : EndpointRecord}
    (recorded : node.endpointMap.endpoints.get? uniqueId = some record)
    (trusted : record.numberVoid = false) :
    ∃ final, (node.checkDrift disk).endpointMap.endpoints.get? uniqueId = some final ∧
      final.number = record.number ∧ final.numberVoid = false := by
  rw [checkDrift, EndpointMapStore.check_endpoints]
  apply InsertionMap.get?_upsertAll_of_preserved
    (fun final => final.number = record.number ∧ final.numberVoid = false) ?_ ⟨rfl, trusted⟩
    _ recorded
  rintro found item ⟨number, void⟩
  exact ⟨(seenRecord_number_of_not_void item void).trans number, seenRecord_numberVoid _ _⟩

section Departing

variable {createdDeviceIds : InsertionMap Int String}

theorem foldl_depart_ordinary (departed : List (String × Int)) (state : Departures) :
    (departed.foldl (depart disk hard createdDeviceIds) state).ordinary =
      state.ordinary ++ (departed.filter fun entry =>
        (successor hard createdDeviceIds entry).isNone).map Prod.fst := by
  induction departed generalizing state with
  | nil => simp
  | cons head rest ih =>
      rw [List.foldl_cons, ih]
      cases found : successor hard createdDeviceIds head with
      | none => simp [depart, found]
      | some newer => simp [depart, found]

theorem get?_foldl_depart_of_notMem {departed : List (String × Int)}
    (absent : uniqueId ∉ departed.map Prod.fst) (state : Departures) :
    (departed.foldl (depart disk hard createdDeviceIds) state).endpointMap.endpoints.get?
      uniqueId = state.endpointMap.endpoints.get? uniqueId := by
  induction departed generalizing state with
  | nil => rfl
  | cons head rest ih =>
      rw [List.map_cons, List.mem_cons, not_or] at absent
      rw [List.foldl_cons, ih absent.2]
      cases found : successor hard createdDeviceIds head with
      | none => simp [depart, found]
      | some newer => simp [depart, found, EndpointMapStore.get?_forget, absent.1]

/-- The loop itself forgets an identity only when it has a successor. -/
theorem get?_foldl_depart_of_mem {departed : List (String × Int)}
    (distinct : (departed.map Prod.fst).Nodup) {entry : String × Int}
    (member : entry ∈ departed) (state : Departures) :
    (departed.foldl (depart disk hard createdDeviceIds) state).endpointMap.endpoints.get?
        entry.1 =
      match successor hard createdDeviceIds entry with
      | some newer =>
          (state.endpointMap.endpoints.get? entry.1).map
            (EndpointMapStore.forgotten (some newer))
      | none => state.endpointMap.endpoints.get? entry.1 := by
  induction departed generalizing state with
  | nil => cases member
  | cons head rest ih =>
      rw [List.map_cons, List.nodup_cons] at distinct
      rw [List.foldl_cons]
      rcases List.mem_cons.mp member with rfl | later
      · rw [get?_foldl_depart_of_notMem distinct.1]
        cases found : successor hard createdDeviceIds entry with
        | none => simp [depart, found]
        | some newer => simp [depart, found, EndpointMapStore.get?_forget]
      · have differs : entry.1 ≠ head.1 := by
          intro same
          exact distinct.1 (same ▸ List.mem_map_of_mem later)
        rw [ih distinct.2 later]
        cases found : successor hard createdDeviceIds head with
        | none => simp [depart, found]
        | some newer => simp [depart, found, EndpointMapStore.get?_forget, differs]

end Departing

theorem departedSince_nodup (before after : InsertionMap String Int) :
    ((departedSince before after).map Prod.fst).Nodup :=
  before.nodupKeys.sublist (List.filter_sublist.map Prod.fst)

/-- What has departed is what the snapshot has and nothing publishes. -/
theorem mem_departed_iff :
    uniqueId ∈ (departedSince before node.registry.livePublishedIdentities).map Prod.fst ↔
      uniqueId ∈ before.keys ∧ ¬node.registry.Publishes uniqueId := by
  rw [← mem_snapshot_iff, ← @InsertionMap.has_iff _ _ _ node.registry.livePublishedIdentities,
    Bool.not_eq_true]
  simp only [departedSince, List.mem_map, List.mem_filter, Bool.not_eq_true',
    InsertionMap.keys]
  constructor
  · rintro ⟨entry, ⟨member, gone⟩, rfl⟩
    exact ⟨⟨entry, member, rfl⟩, gone⟩
  · rintro ⟨⟨entry, member, rfl⟩, gone⟩
    exact ⟨entry, ⟨member, gone⟩, rfl⟩

/-- An identity that has not departed keeps its record. -/
theorem get?_forgetRemoved_of_stays
    (stays : uniqueId ∈ before.keys → node.registry.Publishes uniqueId) :
    (node.forgetRemoved disk before hard).endpointMap.endpoints.get? uniqueId =
      node.endpointMap.endpoints.get? uniqueId := by
  have absent : uniqueId ∉
      (departedSince before node.registry.livePublishedIdentities).map Prod.fst := by
    rw [mem_departed_iff]
    exact fun departed => departed.2 (stays departed.1)
  simp only [forgetRemoved]
  split
  · rfl
  · have notOrdinary : uniqueId ∉ ((departedSince before
          node.registry.livePublishedIdentities).filter fun entry =>
        (successor hard (createdSince before node.registry.livePublishedIdentities)
          entry).isNone).map Prod.fst :=
      fun member => absent ((List.filter_sublist.map Prod.fst).subset member)
    cases hard with
    | true =>
        simp only [if_true, EndpointMapStore.get?_destroy, foldl_depart_ordinary,
          List.nil_append]
        rw [if_neg notOrdinary, get?_foldl_depart_of_notMem absent]
    | false =>
        simp only [Bool.false_eq_true, if_false, EndpointMapStore.get?_forget,
          foldl_depart_ordinary, List.nil_append]
        rw [if_neg notOrdinary, get?_foldl_depart_of_notMem absent]

/-- A departed identity is forgotten by a soft removal. -/
theorem get?_forgetRemoved_soft (known : uniqueId ∈ before.keys)
    (departed : ¬node.registry.Publishes uniqueId) :
    ∃ supersededBy,
      (node.forgetRemoved disk before false).endpointMap.endpoints.get? uniqueId =
        (node.endpointMap.endpoints.get? uniqueId).map
          (EndpointMapStore.forgotten supersededBy) := by
  obtain ⟨entry, member, rfl⟩ :=
    List.mem_map.mp (mem_departed_iff.mpr ⟨known, departed⟩)
  have occurred : departedSince before node.registry.livePublishedIdentities ≠ [] :=
    List.ne_nil_of_mem member
  have distinct := departedSince_nodup before node.registry.livePublishedIdentities
  have looped := @get?_foldl_depart_of_mem disk false
    (createdSince before node.registry.livePublishedIdentities) _ distinct entry member
    ⟨node.endpointMap, node.lastRemoved, []⟩
  simp only [forgetRemoved, if_neg occurred, Bool.false_eq_true, if_false,
    EndpointMapStore.get?_forget, foldl_depart_ordinary, List.nil_append, looped]
  cases found : successor false
    (createdSince before node.registry.livePublishedIdentities) entry with
  | none =>
      refine ⟨none, ?_⟩
      rw [if_pos]
      exact List.mem_map_of_mem (List.mem_filter.mpr ⟨member, by simp [found]⟩)
  | some newer =>
      refine ⟨some newer, ?_⟩
      rw [if_neg]
      rintro ordinary
      obtain ⟨other, kept, same⟩ := List.mem_map.mp ordinary
      obtain ⟨otherMember, none⟩ := List.mem_filter.mp kept
      obtain rfl : other = entry := List.inj_on_of_nodup_map distinct otherMember member same
      simp [found] at none

/-- A departed identity is destroyed by a hard removal. -/
theorem get?_forgetRemoved_hard (known : uniqueId ∈ before.keys)
    (departed : ¬node.registry.Publishes uniqueId) :
    (node.forgetRemoved disk before true).endpointMap.endpoints.get? uniqueId = none := by
  obtain ⟨entry, member, rfl⟩ :=
    List.mem_map.mp (mem_departed_iff.mpr ⟨known, departed⟩)
  have occurred : departedSince before node.registry.livePublishedIdentities ≠ [] :=
    List.ne_nil_of_mem member
  simp only [forgetRemoved, if_neg occurred, if_true, EndpointMapStore.get?_destroy,
    foldl_depart_ordinary, List.nil_append]
  rw [if_pos]
  apply List.mem_map_of_mem (List.mem_filter.mpr ⟨member, ?_⟩)
  cases created : (createdSince before node.registry.livePublishedIdentities).get? entry.2 <;>
    simp [successor, created, Option.filter]

/-- Pairing a supersession touches at most the record of the remembered
identity. -/
theorem get?_noteSupersession {spec : EndpointSpec} :
    (node.noteSupersessionIfPaired disk spec).endpointMap.endpoints.get? uniqueId =
      if node.lastRemoved.get? spec.indigoDeviceId = some uniqueId ∧
          supersedes uniqueId spec.publishedAs = true then
        (node.endpointMap.endpoints.get? uniqueId).map
          (EndpointMapStore.forgotten (some spec.publishedAs))
      else node.endpointMap.endpoints.get? uniqueId := by
  simp only [noteSupersessionIfPaired]
  cases remembered : node.lastRemoved.get? spec.indigoDeviceId with
  | none => simp
  | some old =>
      by_cases newer : supersedes old spec.publishedAs = true
      · simp only [Option.filter, newer, if_true, EndpointMapStore.get?_forget,
          List.mem_singleton, Option.some.injEq]
        by_cases same : uniqueId = old
        · subst same
          simp [newer]
        · simp [same, Ne.symm same]
      · have unpaired : ¬(old = uniqueId ∧ supersedes uniqueId spec.publishedAs = true) := by
          rintro ⟨rfl, paired⟩
          exact newer paired
        simp [Option.filter, newer, unpaired]

@[simp]
theorem noteSupersession_registry {spec : EndpointSpec} :
    (node.noteSupersessionIfPaired disk spec).registry = node.registry := by
  simp only [noteSupersessionIfPaired]
  split <;> rfl

end Node

end IndigoMatter.Bridge
