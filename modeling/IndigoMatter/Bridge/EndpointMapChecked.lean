import IndigoMatter.Bridge.EndpointMapRoundTrip

/-!
# What `driftChecked` says

An empty drift is an answer when the map was compared with something and the file
holds that map.  Two flags keep it: `checkRan`, raised by whatever looks at a
live set with something in it, and `dirty`, raised by a write that failed.  A
clean store is either what its file reads as, or it is empty and has looked at
nothing, as after a delete that failed.

A seed or a rebuild looks at the live set by adopting it, so it raises the flag
without a `check`.
-/

namespace IndigoMatter.Bridge

open IndigoMatter.Library

namespace EndpointMapStore

variable {store : EndpointMapStore}

/-! ## The property -/

/-- The file parses to the map in memory. -/
def Recorded (store : EndpointMapStore) : Prop :=
  loadEndpointMap store.path store.file = ⟨store.endpoints, true, none⟩

/-- Whether a live set with something in it has been looked at since the map was
loaded or replaced, given whether one had been before a call.  `adopting` says
whether a seed or a rebuild that adopts such a set has looked at it. -/
def lookedAfter (adopting looked : Bool) (store : EndpointMapStore) : MapCall → Bool
  | .load => false
  | .check live _ => looked || !live.entries.isEmpty
  | .forget _ _ _ => looked
  | .destroy _ _ => looked
  | .voidNumbers _ => looked
  | .seed numbers lands =>
      if (store.seed numbers.entries lands).isSome then adopting && !numbers.entries.isEmpty
      else looked
  | .rebuild live _ => adopting && !live.entries.isEmpty
  | .discard _ => false

/-- The calls of a run, with what has been looked at along the way. -/
def followed (adopting : Bool) (start : EndpointMapStore) (calls : List MapCall) :
    EndpointMapStore × Bool :=
  calls.foldl
    (fun state call => (state.1.after call, lookedAfter adopting state.2 state.1 call))
    (start, false)

/-- A live set with something in it has been looked at since the map was loaded or
replaced. -/
def Looked (adopting : Bool) (start : EndpointMapStore) (calls : List MapCall) : Prop :=
  (followed adopting start calls).2 = true

theorem followed_append (adopting : Bool) (start : EndpointMapStore) (calls : List MapCall)
    (call : MapCall) :
    followed adopting start (calls ++ [call]) =
      ((followed adopting start calls).1.after call,
        lookedAfter adopting (followed adopting start calls).2
          (followed adopting start calls).1 call) := by
  simp [followed]

theorem followed_of_run {adopting : Bool} {start : EndpointMapStore} {calls : List MapCall}
    (run : Run step start calls store) : (followed adopting start calls).1 = store := by
  induction run with
  | nil => rfl
  | snoc before meets last ih =>
      rw [followed_append, ih]
      exact Option.some.inj last

/-! ## Calls that change nothing -/

/-- A fold that counts its changes has changed nothing when it has counted none. -/
theorem foldl_eq_of_count {α β : Type} {one : β × Nat → α → β × Nat}
    (counts : ∀ state item, one state item = state ∨ state.2 < (one state item).2)
    (items : List α) (state : β × Nat) :
    state.2 ≤ (items.foldl one state).2 ∧
      ((items.foldl one state).2 = state.2 → items.foldl one state = state) := by
  induction items generalizing state with
  | nil => exact ⟨Nat.le_refl _, fun _ => rfl⟩
  | cons item rest ih =>
      rw [List.foldl_cons]
      rcases ih (one state item) with ⟨grows, steady⟩
      rcases counts state item with same | more
      · rw [same] at grows steady ⊢
        exact ⟨grows, steady⟩
      · refine ⟨more.le.trans grows, fun stays => ?_⟩
        omega

theorem forgetOne_counts (supersededBy : Option String)
    (state : InsertionMap String EndpointRecord × Nat) (uniqueId : String) :
    forgetOne supersededBy state uniqueId = state ∨
      state.2 < (forgetOne supersededBy state uniqueId).2 := by
  unfold forgetOne
  split
  · exact .inr (Nat.lt_succ_self _)
  · exact .inl rfl

theorem destroyOne_counts (state : InsertionMap String EndpointRecord × Nat)
    (uniqueId : String) :
    destroyOne state uniqueId = state ∨ state.2 < (destroyOne state uniqueId).2 := by
  unfold destroyOne
  split
  · exact .inr (Nat.lt_succ_self _)
  · exact .inl rfl

/-- A check that has nothing to write leaves the map as it was. -/
theorem checkPass_unchanged {endpoints : InsertionMap String EndpointRecord} {live : LiveSet}
    (quiet : ¬(checkPass endpoints live.entries).Wrote) :
    (checkPass endpoints live.entries).endpoints = endpoints := by
  rw [checkPass, foldl_checkEntry_wrote live.distinct, not_or] at quiet
  rw [checkPass, foldl_checkEntry_endpoints]
  apply InsertionMap.upsertAll_eq_self
  intro entry member
  by_contra changes
  exact quiet.2 ⟨entry, member, changes⟩

/-! ## The invariant -/

/-- The file reads as the map in memory, but for empty texts. -/
def Filed (store : EndpointMapStore) : Prop :=
  loadEndpointMap store.path store.file =
    ⟨store.endpoints.mapValues fun _ record => record.reread, true, none⟩

/-- A clean store is filed, or it is empty and has looked at nothing. -/
def Synced (store : EndpointMapStore) : Prop :=
  store.dirty = false → store.Filed ∨ (store.endpoints = ∅ ∧ store.checkRan = false)

theorem filed_persist (store : EndpointMapStore) : (store.persist true).Filed := by
  simp [Filed, persist, loadEndpointMap, readMapFile_mapFile]

theorem synced_persist (lands : Bool) (store : EndpointMapStore) :
    (store.persist lands).Synced := by
  intro clean
  cases lands with
  | true => exact .inl (filed_persist store)
  | false => cases clean

theorem synced_persistWhen {needed : Bool} (lands : Bool)
    (holds : needed = false → store.Synced) : (store.persistWhen needed lands).Synced := by
  cases needed with
  | true => exact synced_persist lands store
  | false => exact holds rfl

theorem synced_load (store : EndpointMapStore) : store.load.Synced := by
  intro clean
  have reread : ((loadEndpointMap store.path store.file).endpoints.mapValues fun _ record =>
      record.reread) = (loadEndpointMap store.path store.file).endpoints :=
    mapValues_reread (readable_opened store.path store.file)
  change loadEndpointMap store.path store.file =
      ⟨(loadEndpointMap store.path store.file).endpoints.mapValues fun _ record => record.reread,
        true, none⟩ ∨
    ((loadEndpointMap store.path store.file).endpoints = ∅ ∧ false = false)
  rw [reread]
  rcases store.file with _ | message | value
  · exact .inr ⟨rfl, rfl⟩
  · exact .inr ⟨rfl, rfl⟩
  · rw [loadEndpointMap]
    rcases readMapFile value with _ | endpoints
    · exact .inr ⟨rfl, rfl⟩
    · exact .inl rfl

/-- A check that has something to write or owes a write persists. -/
theorem synced_check_of_needed {live : LiveSet} (lands : Bool)
    (needed : (checkPass store.endpoints live.entries).Wrote ∨ store.dirty = true) :
    (store.check live.entries lands).2.Synced := by
  intro clean
  simp only [Pass.Wrote, or_assoc] at needed
  cases lands with
  | true =>
      left
      simp [Filed, check, persistWhen, persist, needed, loadEndpointMap, readMapFile_mapFile]
  | false => simp [check, persistWhen, persist, needed] at clean

/-- Any other check only raises the flag. -/
theorem check_of_quiet {live : LiveSet} (lands : Bool)
    (quiet : ¬(checkPass store.endpoints live.entries).Wrote) (clean : store.dirty = false) :
    (store.check live.entries lands).2 =
      { store with checkRan := store.checkRan || live.entries ≠ [] } := by
  have same := checkPass_unchanged quiet
  simp only [Pass.Wrote, not_or] at quiet
  simp [check, persistWhen, quiet, clean, same]

theorem synced_check (holds : store.Synced) (live : LiveSet) (lands : Bool) :
    (store.check live.entries lands).2.Synced := by
  by_cases needed : (checkPass store.endpoints live.entries).Wrote ∨ store.dirty = true
  · exact synced_check_of_needed lands needed
  · rw [not_or, Bool.not_eq_true] at needed
    rw [check_of_quiet lands needed.1 needed.2]
    intro clean
    rcases holds clean with filed | ⟨empty, unlooked⟩
    · exact .inl filed
    · right
      -- in an empty map every live endpoint is new, so a quiet check has seen none
      have none : live.entries = [] := by
        by_contra some
        rcases List.exists_mem_of_ne_nil _ some with ⟨entry, member⟩
        apply needed.1
        rw [checkPass, foldl_checkEntry_wrote live.distinct]
        exact .inr ⟨entry, member, by simp [empty]⟩
      exact ⟨empty, by simp [unlooked, none]⟩

/-- No call makes a clean store differ from its file, however its write ends. -/
theorem synced_after (holds : store.Synced) (call : MapCall) : (store.after call).Synced := by
  cases call with
  | load => exact synced_load store
  | check live lands => exact synced_check holds live lands
  | forget uniqueIds supersededBy lands =>
      apply synced_persistWhen
      intro none
      have counts := foldl_eq_of_count (forgetOne_counts supersededBy) uniqueIds
        (store.endpoints, 0)
      have zero : (uniqueIds.foldl (forgetOne supersededBy) (store.endpoints, 0)).2 = 0 := by
        simpa using none
      rw [counts.2 zero]
      exact holds
  | destroy uniqueIds lands =>
      apply synced_persistWhen
      intro none
      have counts := foldl_eq_of_count destroyOne_counts uniqueIds (store.endpoints, 0)
      have zero : (uniqueIds.foldl destroyOne (store.endpoints, 0)).2 = 0 := by
        simpa using none
      rw [counts.2 zero]
      exact holds
  | voidNumbers lands =>
      unfold after voidNumbers
      dsimp only
      split
      · exact holds
      · exact synced_persist lands _
  | seed numbers lands =>
      unfold after seed
      dsimp only
      split
      · exact holds
      · exact synced_persist lands _
  | rebuild live lands =>
      intro clean
      cases lands with
      | true => exact .inl (filed_persist _)
      | false => cases clean
  | discard deletes =>
      intro clean
      right
      cases deletes <;> exact ⟨rfl, rfl⟩

/-! ## The flag -/

theorem persist_checkRan (lands : Bool) (store : EndpointMapStore) :
    (store.persist lands).checkRan = store.checkRan := by
  cases lands <;> rfl

theorem persistWhen_checkRan (needed lands : Bool) (store : EndpointMapStore) :
    (store.persistWhen needed lands).checkRan = store.checkRan := by
  cases needed with
  | true => exact persist_checkRan lands store
  | false => rfl

/-- The flag is raised only when something has been looked at. -/
theorem looked_after {looked : Bool} (holds : store.checkRan = true → looked = true)
    (call : MapCall) (ran : (store.after call).checkRan = true) :
    lookedAfter true looked store call = true := by
  cases call with
  | load => cases ran
  | check live lands =>
      simp only [after, check, persistWhen_checkRan, Bool.or_eq_true] at ran
      rcases ran with before | some
      · simp [lookedAfter, holds before]
      · simp [lookedAfter, of_decide_eq_true some]
  | forget uniqueIds supersededBy lands =>
      simp only [after, forget, persistWhen_checkRan] at ran
      exact holds ran
  | destroy uniqueIds lands =>
      simp only [after, destroy, persistWhen_checkRan] at ran
      exact holds ran
  | voidNumbers lands =>
      unfold after voidNumbers at ran
      dsimp only at ran
      split at ran
      · exact holds ran
      · simp [persist_checkRan] at ran
  | seed numbers lands =>
      rw [lookedAfter]
      rw [after] at ran
      cases seeded : store.seed numbers.entries lands with
      | none =>
          rw [seeded] at ran
          exact holds ran
      | some result =>
          rw [seeded] at ran
          unfold seed at seeded
          split at seeded
          · cases seeded
          · obtain rfl := Option.some.inj seeded
            simpa [persist_checkRan, List.length_pos_iff] using ran
  | rebuild live lands =>
      simp only [after, rebuild, Bool.and_eq_true] at ran
      simpa [lookedAfter, List.length_pos_iff] using ran.2
  | discard deletes => cases deletes <;> cases ran

/-! ## Runs -/

/-- What holds along every run of calls, whatever writes and deletes fail. -/
theorem synced_of_run {path : String} {file : MapFile} {calls : List MapCall}
    (run : Run step (opened path file) calls store) : store.Synced := by
  apply run.invariant
  · exact synced_load _
  · intro state call next holds _ taken
    obtain rfl : state.after call = next := Option.some.inj taken
    exact synced_after holds call

theorem looked_of_run {path : String} {file : MapFile} {calls : List MapCall}
    (run : Run step (opened path file) calls store) (ran : store.checkRan = true) :
    Looked true (opened path file) calls := by
  induction run with
  | nil => cases ran
  | @snoc events middle final call before meets last ih =>
      obtain rfl : middle.after call = final := Option.some.inj last
      rw [Looked, followed_append, followed_of_run before]
      exact looked_after ih call ran

/-- Whenever `checked` reports true, a live set with something in it has been
compared with the map, or adopted as the map, since the map was loaded or replaced;
and the file parses to the map in memory, unless a record holds an empty text. -/
theorem checked_honest {path : String} {file : MapFile} {calls : List MapCall}
    (run : Run step (opened path file) calls store) (reported : store.checked = true) :
    Looked true (opened path file) calls ∧
      (store.AllRecords (fun record => record.Readable ∧ record.Labelled) → store.Recorded) := by
  rw [checked, Bool.and_eq_true, Bool.not_eq_true'] at reported
  rcases reported with ⟨ran, clean⟩
  refine ⟨looked_of_run run ran, fun texts => ?_⟩
  rcases synced_of_run run clean with filed | ⟨-, unlooked⟩
  · rw [Filed, mapValues_reread texts] at filed
    exact filed
  · rw [ran] at unlooked
    cases unlooked

/-- A check whose write fails, a void whose write fails, and the check that makes up
for both. -/
def retriedCalls : List MapCall :=
  [.check (liveLight "Lamp") false, .voidNumbers false, .check (liveLight "Lamp") true]

theorem checked_honest_after_retry :
    Looked true (opened "map" .absent) retriedCalls ∧
      (followed true (opened "map" .absent) retriedCalls).1.Recorded := by
  have run : Run step (opened "map" .absent) retriedCalls
      (followed true (opened "map" .absent) retriedCalls).1 :=
    .snoc (.snoc (.snoc .nil trivial rfl) trivial rfl) trivial rfl
  have honest := checked_honest run (by rfl)
  refine ⟨honest.1, honest.2 ?_⟩
  intro uniqueId record recorded
  have listed : (uniqueId, record) ∈ [("indigo-7", recordFor
      { uniqueId := "indigo-7"
        endpointNumber := 3
        role := some "onOffLight"
        label := some "Lamp"
        deviceId := some 7 })] := InsertionMap.mem_entries_iff.mpr recorded
  rcases Prod.mk.inj (List.mem_singleton.mp listed) with ⟨rfl, rfl⟩
  exact ⟨⟨by decide, by decide⟩, by simp [EndpointRecord.Labelled, recordFor]⟩

/-- A seed reports `checked` although nothing has been compared with the map it
made, and an empty label is not read back from the file. -/
theorem checked_without_comparison :
    (¬∀ (path : String) (file : MapFile) (calls : List MapCall) (store : EndpointMapStore),
      Run step (opened path file) calls store → store.checked = true →
        Looked false (opened path file) calls) ∧
    ¬∀ (path : String) (file : MapFile) (calls : List MapCall) (store : EndpointMapStore),
      Run step (opened path file) calls store → store.checked = true → store.Recorded := by
  constructor
  · intro always
    have run : Run step (opened "map" .absent) [.seed (liveLight "Lamp") true] _ :=
      .snoc .nil trivial rfl
    have looked : (followed false (opened "map" .absent)
        [.seed (liveLight "Lamp") true]).2 = true := always _ _ _ _ run (by rfl)
    exact absurd looked (by decide)
  · intro always
    have run : Run step (opened "map" .absent) [.check (liveLight "") true] _ :=
      .snoc .nil trivial rfl
    have labels := congrArg (fun loaded => loaded.endpoints.values.map EndpointRecord.label)
      (always _ _ _ _ run (by rfl))
    exact absurd labels (by decide)

end EndpointMapStore

end IndigoMatter.Bridge
