import IndigoMatter.Library.Transition
import IndigoMatter.Plugin.CtAdoption
import IndigoMatter.Plugin.PublishedIdentity

/-!
# Published identities stay unique

The operations of the user that give entries their identities: a save and a
removal in the export dialog, and a migration.  Each reads the store and commits
once; a purge of deleted devices is a removal for each of them.

An identity moves by three routes.  A role change and a new export walk past what
others claim, an update carries the identity along, and a migration takes it from
an entry that the same commit drops.
-/

namespace IndigoMatter.Plugin

open IndigoMatter.Library
open IndigoMatter.Bridge (Role MAX_SAFE_INTEGER PUBLISHED_ID_MAX PUBLISHED_ID_PREFIX
  parsePublishedId)

/-- What the user does to the allow-list. -/
inductive ExportOperation
  | addOrUpdate (values : DialogValues)
  | remove (deviceId : Int)
  | migrate (sourceId targetId : Int)

/-- The device that an operation exports. -/
def ExportOperation.exported : ExportOperation → Option Int
  | .addOrUpdate values => some values.deviceId
  | .remove _ => none
  | .migrate _ targetId => some targetId

namespace ExportStore

/-- The commit an operation comes to; `none` when it is refused or raises before. -/
def commitOf (store : ExportStore) : ExportOperation → Option OtherWrite
  | .addOrUpdate values =>
      let previous := store.get values.deviceId
      match resolvePublishedIdentity store.all values.deviceId previous values.role with
      | .error _ => none
      | .ok publishedAs => some (.addOrUpdate values previous previous publishedAs)
  | .remove deviceId => some (.remove deviceId)
  | .migrate sourceId targetId =>
      match store.get sourceId with
      | none => none
      | some source =>
          if targetId = sourceId then none
          else some (.migrate store.all source targetId (store.get targetId))

/-- An operation; its flush may fail. -/
def operate : LabelledStep ExportStore (Flush × ExportOperation)
  | store, (flush, operation) =>
      (store.commitOf operation).map fun write => finalState (write.run flush store)

/-- A store that exports nothing. -/
def empty : ExportStore := ⟨∅, none⟩

/-- No two entries publish one identity, and the node accepts each of them. -/
structure PublishesUniquely (store : ExportStore) : Prop where
  distinct : (store.all.map ExportEntry.identity).Nodup
  lawful : ∀ entry ∈ store.all, (parsePublishedId entry.identity).isSome = true

/-! ## The invariant -/

/-- Every entry is stored under its own device and publishes an identity of its own;
one that is stored explicitly is lawful. -/
structure SoundIdentities (store : ExportStore) : Prop where
  keyed : SharedStore.WellKeyed store.entries
  own : ∀ first second entry other, store.get first = some entry →
    store.get second = some other → entry.identity = other.identity → first = second
  explicit : ∀ deviceId entry publishedAs, store.get deviceId = some entry →
    entry.publishedAs = some publishedAs → (parsePublishedId publishedAs).isSome = true
  safe : ∀ deviceId entry, store.get deviceId = some entry →
    deviceId.natAbs ≤ MAX_SAFE_INTEGER

theorem mem_all_iff {store : ExportStore} {entry : ExportEntry} :
    entry ∈ store.all ↔ ∃ deviceId, store.get deviceId = some entry := by
  unfold all sortedEntries get
  simp only [List.mem_filterMap, List.mem_insertionSort]
  constructor
  · rintro ⟨deviceId, -, stored⟩
    exact ⟨deviceId, stored⟩
  · rintro ⟨deviceId, stored⟩
    exact ⟨deviceId, InsertionMap.mem_keys_iff.mpr ⟨entry, stored⟩, stored⟩

theorem length_publishedIdFor_le {deviceId : Int}
    (safe : deviceId.natAbs ≤ MAX_SAFE_INTEGER) :
    (publishedIdFor deviceId 1).length ≤ PUBLISHED_ID_MAX := by
  have digits (value : Nat) (small : value ≤ MAX_SAFE_INTEGER) : value.repr.length ≤ 16 := by
    rw [← String.length_toList, Nat.toList_repr,
      Nat.length_toDigits_le_iff (by decide) (by decide)]
    exact Nat.lt_of_le_of_lt small (by decide)
  have text : (toString deviceId).length ≤ 17 := by
    cases deviceId with
    | ofNat value =>
        have bound := digits value safe
        change value.repr.length ≤ 17
        omega
    | negSucc value =>
        have bound := digits (value + 1) safe
        change ("-" ++ (value + 1).repr).length ≤ 17
        rw [String.length_append]
        have sign : "-".length = 1 := rfl
        omega
  rw [publishedIdFor, if_pos rfl, String.length_append]
  have seven : PUBLISHED_ID_PREFIX.length = 7 := rfl
  have cap : PUBLISHED_ID_MAX = 32 := rfl
  omega

/-- The default identity of a device is lawful. -/
theorem lawful_publishedIdFor {deviceId : Int} (safe : deviceId.natAbs ≤ MAX_SAFE_INTEGER) :
    (parsePublishedId (publishedIdFor deviceId 1)).isSome = true := by
  rw [← isSome_parsePublished,
    parsePublished_publishedIdFor (length_publishedIdFor_le safe) safe (Nat.le_refl 1)]
  rfl

theorem ne_empty_of_lawful {publishedAs : String}
    (lawful : (parsePublishedId publishedAs).isSome = true) : publishedAs ≠ "" := by
  rintro rfl
  exact absurd lawful (by decide)

/-- With a lawful identity, the published one is the stored one or the default. -/
theorem identity_eq_getD {entry : ExportEntry}
    (explicit : ∀ publishedAs, entry.publishedAs = some publishedAs →
      (parsePublishedId publishedAs).isSome = true) :
    entry.identity = entry.publishedAs.getD (publishedIdFor entry.indigoDeviceId 1) := by
  unfold ExportEntry.identity
  cases stored : entry.publishedAs with
  | none => rfl
  | some publishedAs =>
      dsimp only
      rw [if_neg (ne_empty_of_lawful (explicit publishedAs stored))]
      rfl

theorem lawful_identity {entry : ExportEntry}
    (explicit : ∀ publishedAs, entry.publishedAs = some publishedAs →
      (parsePublishedId publishedAs).isSome = true)
    (safe : entry.indigoDeviceId.natAbs ≤ MAX_SAFE_INTEGER) :
    (parsePublishedId entry.identity).isSome = true := by
  rw [identity_eq_getD explicit]
  cases stored : entry.publishedAs with
  | none => exact lawful_publishedIdFor safe
  | some publishedAs => exact explicit publishedAs stored

theorem soundIdentities_empty : empty.SoundIdentities := by
  constructor
  · intro deviceId entry stored
    cases stored
  · intro first second entry other stored
    cases stored
  · intro deviceId entry publishedAs stored
    cases stored
  · intro deviceId entry stored
    cases stored

theorem SoundIdentities.of_entries {store final : ExportStore} (holds : store.SoundIdentities)
    (same : final.entries = store.entries) : final.SoundIdentities := by
  constructor
  · rw [same]
    exact holds.keyed
  · unfold get
    rw [same]
    exact holds.own
  · unfold get
    rw [same]
    exact holds.explicit
  · unfold get
    rw [same]
    exact holds.safe

/-! ## One operation -/

theorem lawful_of_validateEntry {entry : ExportEntry} (valid : (validateEntry entry).isOk = true) :
    ∀ publishedAs, entry.publishedAs = some publishedAs →
      (parsePublishedId publishedAs).isSome = true := by
  intro publishedAs stored
  unfold validateEntry at valid
  rw [stored] at valid
  cases parsed : parsePublishedId publishedAs with
  | none => simp [parsed, bind, Except.bind, Except.isOk, Except.toBool] at valid
  | some published => rfl

/-- A valid entry may come in when nobody else publishes its identity. -/
theorem SoundIdentities.set {store final : ExportStore} {entry : ExportEntry}
    (holds : store.SoundIdentities) (valid : (validateEntry entry).isOk = true)
    (safe : entry.indigoDeviceId.natAbs ≤ MAX_SAFE_INTEGER)
    (unclaimed : ∀ deviceId other, store.get deviceId = some other →
      deviceId ≠ entry.indigoDeviceId → other.identity ≠ entry.identity)
    (entries : final.entries = store.entries.set entry.indigoDeviceId entry) :
    final.SoundIdentities := by
  have get_final (deviceId : Int) : final.get deviceId =
      if deviceId = entry.indigoDeviceId then some entry else store.get deviceId := by
    rw [get, entries, InsertionMap.get?_set]
    rfl
  constructor
  · rw [entries]
    exact SharedStore.wellKeyed_set holds.keyed
  · intro first second saved other storedFirst storedSecond same
    rw [get_final] at storedFirst storedSecond
    split at storedFirst
    · rename_i firstIs
      obtain rfl := Option.some.inj storedFirst
      split at storedSecond
      · rename_i secondIs
        exact firstIs.trans secondIs.symm
      · rename_i elsewhere
        exact absurd same.symm (unclaimed second other storedSecond elsewhere)
    · rename_i elsewhere
      split at storedSecond
      · obtain rfl := Option.some.inj storedSecond
        exact absurd same (unclaimed first saved storedFirst elsewhere)
      · exact holds.own first second saved other storedFirst storedSecond same
  · intro deviceId saved publishedAs stored
    rw [get_final] at stored
    split at stored
    · obtain rfl := Option.some.inj stored
      exact lawful_of_validateEntry valid publishedAs
    · exact holds.explicit deviceId saved publishedAs stored
  · intro deviceId saved stored
    rw [get_final] at stored
    split at stored
    · rename_i own
      rw [own]
      exact safe
    · exact holds.safe deviceId saved stored

/-- The identity a save resolves is published by no other entry. -/
theorem unclaimed_of_resolved {store : ExportStore} (holds : store.SoundIdentities)
    {entry : ExportEntry}
    (resolved : resolvePublishedIdentity store.all entry.indigoDeviceId
      (store.get entry.indigoDeviceId) entry.role = .ok entry.publishedAs)
    (explicit : ∀ publishedAs, entry.publishedAs = some publishedAs →
      (parsePublishedId publishedAs).isSome = true) :
    ∀ deviceId other, store.get deviceId = some other →
      deviceId ≠ entry.indigoDeviceId → other.identity ≠ entry.identity := by
  have walked {identity fresh : String}
      (ended : firstUnclaimedIdentity store.all entry.indigoDeviceId store.all.length identity =
        .ok fresh) :
      ∀ deviceId other, store.get deviceId = some other →
        deviceId ≠ entry.indigoDeviceId → other.identity ≠ fresh := by
    intro deviceId other stored elsewhere
    apply firstUnclaimedIdentity_unclaimed ended other (mem_all_iff.mpr ⟨deviceId, stored⟩)
    rw [holds.keyed deviceId other stored]
    exact elsewhere
  rw [identity_eq_getD explicit]
  unfold resolvePublishedIdentity at resolved
  cases stored : store.get entry.indigoDeviceId with
  | some previous =>
      rw [stored] at resolved
      dsimp only at resolved
      split at resolved
      · split at resolved
        · cases resolved
        · rename_i bumped following
          cases ended : firstUnclaimedIdentity store.all entry.indigoDeviceId store.all.length
            bumped with
          | error error =>
              rw [ended] at resolved
              cases resolved
          | ok fresh =>
              rw [ended] at resolved
              rw [← Except.ok.inj resolved]
              exact walked ended
      · intro deviceId other storedOther elsewhere same
        rw [← Except.ok.inj resolved] at same
        have own := holds.keyed _ previous stored
        rw [← own, ← identity_eq_getD (holds.explicit _ previous · stored)] at same
        exact elsewhere (holds.own deviceId _ other previous storedOther stored same)
  | none =>
      rw [stored] at resolved
      dsimp only at resolved
      cases ended : firstUnclaimedIdentity store.all entry.indigoDeviceId store.all.length
        (publishedIdFor entry.indigoDeviceId 1) with
      | error error =>
          rw [ended] at resolved
          cases resolved
      | ok fresh =>
          rw [ended] at resolved
          rw [← Except.ok.inj resolved]
          dsimp only
          split
          · rename_i default
            rw [Option.getD_none, ← default]
            exact walked ended
          · exact walked ended

theorem soundIdentities_addOrUpdate {store : ExportStore} (holds : store.SoundIdentities)
    {values : DialogValues} (safe : values.deviceId.natAbs ≤ MAX_SAFE_INTEGER)
    {previous fresh : Option ExportEntry} {publishedAs : Option String}
    (resolved : resolvePublishedIdentity store.all values.deviceId (store.get values.deviceId)
      values.role = .ok publishedAs) (flush : Flush) :
    (finalState ((OtherWrite.addOrUpdate values previous fresh publishedAs).run flush
      store)).SoundIdentities := by
  apply final_of_wp (fun final : ExportStore => final.SoundIdentities)
  rw [OtherWrite.run, wp_bind]
  refine wp_mono (upsert_spec flush _ store) ?_ ?_
  · rintro _ final ⟨landed, entries⟩
    simp only [lands, Bool.and_eq_true] at landed
    apply holds.set landed.2 safe _ entries
    exact unclaimed_of_resolved holds resolved (lawful_of_validateEntry landed.2)
  · rintro _ final ⟨-, entries⟩
    exact holds.of_entries entries

theorem soundIdentities_remove {store : ExportStore} (holds : store.SoundIdentities)
    (deviceId : Int) (flush : Flush) :
    (finalState ((OtherWrite.remove deviceId).run flush store)).SoundIdentities := by
  apply final_of_wp (fun final : ExportStore => final.SoundIdentities)
  refine wp_mono (OtherWrite.run_spec flush (.remove deviceId) store) ?_ ?_
  · intro _ final entries
    have kept (other : Int) (entry : ExportEntry) (stored : final.get other = some entry) :
        store.get other = some entry := by
      rw [get, entries, OtherWrite.effect, InsertionMap.get?_delete] at stored
      split at stored
      · cases stored
      · exact stored
    constructor
    · rw [entries]
      exact SharedStore.wellKeyed_effect holds.keyed (.remove deviceId)
    · intro first second entry other storedFirst storedSecond
      exact holds.own first second entry other (kept _ _ storedFirst) (kept _ _ storedSecond)
    · intro other entry publishedAs stored
      exact holds.explicit other entry publishedAs (kept _ _ stored)
    · intro other entry stored
      exact holds.safe other entry (kept _ _ stored)
  · intro _ final entries
    exact holds.of_entries entries

/-- What a migration leaves in the store: an entry of another device, or the migrated one,
which publishes what the source did. -/
theorem get_migrated {store final : ExportStore} (holds : store.SoundIdentities)
    {source : ExportEntry} {sourceId targetId : Int}
    (stored : store.get sourceId = some source)
    (entries : final.entries = (OtherWrite.migrate store.all source targetId
      (store.get targetId)).effect store.entries)
    {deviceId : Int} {entry : ExportEntry} (saved : final.get deviceId = some entry) :
    (store.get deviceId = some entry ∧ deviceId ≠ sourceId ∧ deviceId ≠ targetId) ∨
      (deviceId = targetId ∧ entry = migratedEntry source targetId (store.get targetId)) := by
  rw [get, entries] at saved
  rcases List.mem_map.mp (InsertionMap.mem_of_get?_ofList saved) with ⟨listed, mem, same⟩
  rcases Prod.mk.inj same with ⟨rfl, rfl⟩
  rcases List.mem_append.mp mem with old | new
  · rcases List.mem_filter.mp old with ⟨before, elsewhere⟩
    rcases mem_all_iff.mp before with ⟨deviceId, was⟩
    rw [holds.keyed sourceId source stored] at elsewhere
    left
    rw [holds.keyed deviceId listed was] at elsewhere ⊢
    exact ⟨was, of_decide_eq_true elsewhere⟩
  · right
    rw [List.mem_singleton.mp new]
    exact ⟨rfl, rfl⟩

theorem soundIdentities_migrate {store : ExportStore} (holds : store.SoundIdentities)
    {source : ExportEntry} {sourceId targetId : Int}
    (stored : store.get sourceId = some source)
    (safe : targetId.natAbs ≤ MAX_SAFE_INTEGER) (flush : Flush) :
    (finalState ((OtherWrite.migrate store.all source targetId (store.get targetId)).run flush
      store)).SoundIdentities := by
  apply final_of_wp (fun final : ExportStore => final.SoundIdentities)
  refine wp_mono (OtherWrite.run_spec flush _ store) ?_ ?_
  · intro _ final entries
    have own := holds.keyed sourceId source stored
    have published : (migratedEntry source targetId (store.get targetId)).publishedAs =
        some source.identity := by
      rw [identity_eq_getD (holds.explicit sourceId source · stored)]
      rfl
    have lawful : (parsePublishedId source.identity).isSome = true :=
      lawful_identity (holds.explicit sourceId source · stored)
        (own ▸ holds.safe sourceId source stored)
    have identity : (migratedEntry source targetId (store.get targetId)).identity =
        source.identity := by
      rw [ExportEntry.identity, published]
      dsimp only
      rw [if_neg (ne_empty_of_lawful lawful)]
    constructor
    · rw [entries]
      exact SharedStore.wellKeyed_effect holds.keyed _
    · intro first second entry other savedFirst savedSecond same
      rcases get_migrated holds stored entries savedFirst with ⟨was, away, -⟩ | ⟨rfl, rfl⟩
      · rcases get_migrated holds stored entries savedSecond with ⟨wasOther, -, -⟩ | ⟨rfl, rfl⟩
        · exact holds.own first second entry other was wasOther same
        · rw [identity] at same
          exact absurd (holds.own first sourceId entry source was stored same) away
      · rcases get_migrated holds stored entries savedSecond with ⟨wasOther, away, -⟩ | ⟨rfl, rfl⟩
        · rw [identity] at same
          exact absurd (holds.own second sourceId other source wasOther stored same.symm) away
        · rfl
    · intro deviceId entry publishedAs saved names
      rcases get_migrated holds stored entries saved with ⟨was, -, -⟩ | ⟨-, rfl⟩
      · exact holds.explicit deviceId entry publishedAs was names
      · rw [published] at names
        rw [← Option.some.inj names]
        exact lawful
    · intro deviceId entry saved
      rcases get_migrated holds stored entries saved with ⟨was, -, -⟩ | ⟨rfl, -⟩
      · exact holds.safe deviceId entry was
      · exact safe
  · intro _ final entries
    exact holds.of_entries entries

/-- The operations export only devices that Indigo has, under its own safe ids. -/
def exportsOnly (devices : Int → Prop) (operation : ExportOperation) : Prop :=
  ∀ deviceId ∈ operation.exported, devices deviceId

instance (devices : Int → Prop) [DecidablePred devices] (operation : ExportOperation) :
    Decidable (exportsOnly devices operation) :=
  inferInstanceAs (Decidable (∀ deviceId ∈ operation.exported, devices deviceId))

theorem soundIdentities_operate {devices : Int → Prop}
    (ids : ∀ deviceId, devices deviceId → deviceId.natAbs ≤ MAX_SAFE_INTEGER)
    {store next : ExportStore} {event : Flush × ExportOperation}
    (holds : store.SoundIdentities) (exports : exportsOnly devices event.2)
    (taken : operate store event = some next) : next.SoundIdentities := by
  rcases event with ⟨flush, operation⟩
  rcases Option.map_eq_some_iff.mp taken with ⟨write, commits, rfl⟩
  cases operation with
  | addOrUpdate values =>
      rw [commitOf] at commits
      split at commits
      · cases commits
      · rename_i publishedAs resolved
        obtain rfl := Option.some.inj commits
        exact soundIdentities_addOrUpdate holds (ids _ (exports _ rfl)) resolved flush
  | remove deviceId =>
      obtain rfl := Option.some.inj commits
      exact soundIdentities_remove holds deviceId flush
  | migrate sourceId targetId =>
      rw [commitOf] at commits
      split at commits
      · cases commits
      · rename_i source stored
        split at commits
        · cases commits
        · obtain rfl := Option.some.inj commits
          exact soundIdentities_migrate holds stored (ids _ (exports _ rfl)) flush

theorem publishesUniquely_of_sound {store : ExportStore} (holds : store.SoundIdentities) :
    store.PublishesUniquely := by
  constructor
  · have keys : (store.entries.keys.insertionSort (· ≤ ·)).Nodup :=
      (List.perm_insertionSort _ _).nodup_iff.mpr store.entries.keys_nodup
    rw [all, sortedEntries, List.map_filterMap]
    apply List.Nodup.filterMap _ keys
    intro first second identity published publishedToo
    rcases Option.map_eq_some_iff.mp published with ⟨entry, stored, rfl⟩
    rcases Option.map_eq_some_iff.mp publishedToo with ⟨other, storedToo, same⟩
    exact holds.own first second entry other stored storedToo same.symm
  · intro entry mem
    rcases mem_all_iff.mp mem with ⟨deviceId, stored⟩
    apply lawful_identity (holds.explicit deviceId entry · stored)
    rw [holds.keyed deviceId entry stored]
    exact holds.safe deviceId entry stored

/-- After any sequence of operations, completed or failed, on devices whose ids Indigo
gives out, the published identities of the allow-list are pairwise distinct and
lawful. -/
theorem published_identities_unique {devices : Int → Prop}
    (ids : ∀ deviceId, devices deviceId → deviceId.natAbs ≤ MAX_SAFE_INTEGER)
    {events : List (Flush × ExportOperation)} {store : ExportStore}
    (run : RunWhere operate (fun _ event => exportsOnly devices event.2) empty events store) :
    store.PublishesUniquely := by
  have holds : store.SoundIdentities := run.invariant soundIdentities_empty
    fun _ _ _ holds exports taken => soundIdentities_operate ids holds exports taken
  exact publishesUniquely_of_sound holds

/-! ## A migration, a new export of its source, and a role change -/

/-- The dialog as it is saved for a light with nothing else on screen. -/
def saveAs (deviceId : Int) (role : Role) : ExportOperation :=
  .addOrUpdate ⟨deviceId, role, none, ∅, false, .untouched⟩

/-- Device 8 takes over the accessory of device 7, which is then exported anew. -/
def takeOver : List (Flush × ExportOperation) :=
  [(.saved, saveAs 7 .onOffLight), (.saved, .migrate 7 8), (.saved, saveAs 7 .onOffLight),
    (.saved, saveAs 8 .dimmableLight)]

/-- The store after a list of operations that all go through. -/
def play (events : List (Flush × ExportOperation)) : ExportStore :=
  (follow operate (fun _ _ => True) empty events).getD empty

/-- The role change of device 8 walks past the generation that device 7 has taken. -/
example : (play takeOver).all.map ExportEntry.identity = ["indigo-7~2", "indigo-7~3"] := by rfl

theorem published_identities_unique_after_takeOver : (play takeOver).PublishesUniquely := by
  have ids (deviceId : Int) (device : deviceId = 7 ∨ deviceId = 8) :
      deviceId.natAbs ≤ MAX_SAFE_INTEGER := by
    rcases device with rfl | rfl <;> decide
  have run : RunWhere operate
      (fun _ event => exportsOnly (fun deviceId => deviceId = 7 ∨ deviceId = 8) event.2)
      empty takeOver (play takeOver) := runWhere_of_follow (by rfl)
  exact published_identities_unique ids run

end ExportStore

end IndigoMatter.Plugin
