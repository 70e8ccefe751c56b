import IndigoMatter.Plugin.ExportStore
import IndigoMatter.Plugin.BridgeProtocol

/-!
# Writers of the export store

What the export dialog and the migrate menu put into the store, from what they
have read of it.  Each reads the store one or more times and commits once, in a
single store operation; between a read and the commit another thread can write.
-/

namespace IndigoMatter.Plugin

open IndigoMatter.Library
open IndigoMatter.Bridge (Role)

/-! ## The export dialog -/

/-- The two seed fields: as they were shown, emptied, or edited into a pair. -/
inductive SeedFields
  | untouched
  | cleared
  | edited (minMireds maxMireds : Int)

/-- What the dialog has on screen when it saves, after its own checks. -/
structure DialogValues where
  deviceId : Int
  role : Role
  nameOverride : Option String
  mapping : Options
  invert : Bool
  seed : SeedFields

/-- Copy the listed keys, where the source has them. -/
def copyKeys (keys : List String) (source target : Options) : Options :=
  keys.foldl (fun options key =>
    match source.get? key with
    | some value => options.set key value
    | none => options) target

/-- `_ct_seed_from_values`: fields nobody touched carry the stored seed forward. -/
def ctSeedFromValues (seed : SeedFields) (previousOptions : Options) : Options :=
  match seed with
  | .untouched => copyKeys [OPTION_CT_MIN_MIREDS, OPTION_CT_MAX_MIREDS] previousOptions ∅
  | .cleared => ∅
  | .edited minMireds maxMireds =>
      ((∅ : Options).set OPTION_CT_MIN_MIREDS (.int minMireds)).set OPTION_CT_MAX_MIREDS
        (.int maxMireds)

/-- The options a save starts from. -/
def dialogOptions (values : DialogValues) (previous : Option ExportEntry) : Options :=
  let mapped := if values.role ∈ MAPPABLE_ROLES then values.mapping else ∅
  let inverted :=
    if values.role = .windowCovering ∧ values.invert then mapped.set OPTION_INVERT (.bool true)
    else mapped
  if values.role ∈ CT_ROLES then
    let seed := ctSeedFromValues values.seed ((previous.map ExportEntry.options).getD ∅)
    copyKeys seed.keys seed inverted
  else inverted

/-- `_carry_forward_ct_bounds`: the learner's record comes from a read of its own,
and is dropped where it contradicts the seed. -/
def carryForwardCtBounds (options : Options) (role : Role) (fresh : Option ExportEntry) :
    Options :=
  if role ∈ CT_ROLES then
    let stripped := LEARNED_KEYS.foldl InsertionMap.delete options
    let carried := copyKeys LEARNED_KEYS ((fresh.map ExportEntry.options).getD ∅) stripped
    let (effectiveMin, effectiveMax) := effectiveCtBounds carried
    if effectiveMax ≤ effectiveMin then LEARNED_KEYS.foldl InsertionMap.delete carried
    else carried
  else options

/-- The entry `exportAddOrUpdate` saves. -/
def dialogEntry (values : DialogValues) (previous fresh : Option ExportEntry)
    (publishedAs : Option String) : ExportEntry where
  indigoDeviceId := values.deviceId
  role := values.role
  nameOverride := values.nameOverride
  options := carryForwardCtBounds (dialogOptions values previous) values.role fresh
  publishedAs := publishedAs

/-! ## The migrate menu -/

/-- `_migrated_options`: the options of the accessory, the state mapping of the
target. -/
def migratedOptions (source : Options) (target : Option Options) : Options :=
  copyKeys [OPTION_STATE_KEY, OPTION_STATE_INVERT] (target.getD ∅)
    ((source.delete OPTION_STATE_KEY).delete OPTION_STATE_INVERT)

/-- The entry of the target of a migration. -/
def migratedEntry (source : ExportEntry) (targetId : Int) (targetPrevious : Option ExportEntry) :
    ExportEntry where
  indigoDeviceId := targetId
  role := source.role
  nameOverride := source.nameOverride
  options := migratedOptions source.options (targetPrevious.map ExportEntry.options)
  publishedAs := some (source.publishedAs.getD (publishedIdFor source.indigoDeviceId 1))

/-- The list `_migrate_commit` replaces the store with. -/
def migratedEntries (listed : List ExportEntry) (source : ExportEntry) (targetId : Int)
    (targetPrevious : Option ExportEntry) : List ExportEntry :=
  (listed.filter fun entry =>
    entry.indigoDeviceId ≠ source.indigoDeviceId ∧ entry.indigoDeviceId ≠ targetId) ++
    [migratedEntry source targetId targetPrevious]

/-! ## Commits -/

/-- A commit of a writer other than the learner.  What the writer has read before
comes with it: the reads of the dialog and of the menu are at other times. -/
inductive OtherWrite
  | addOrUpdate (values : DialogValues) (previous fresh : Option ExportEntry)
      (publishedAs : Option String)
  | remove (deviceId : Int)
  | migrate (listed : List ExportEntry) (source : ExportEntry) (targetId : Int)
      (targetPrevious : Option ExportEntry)

namespace OtherWrite

/-- The store operation of a commit. -/
def run (flush : Flush) : OtherWrite → StoreOperation PUnit
  | .addOrUpdate values previous fresh publishedAs => do
      let _ ← ExportStore.upsert flush (dialogEntry values previous fresh publishedAs)
  | .remove deviceId => do
      let _ ← ExportStore.remove flush deviceId
  | .migrate listed source targetId targetPrevious =>
      ExportStore.replaceAll flush (migratedEntries listed source targetId targetPrevious)

/-- What a commit that works does to the list. -/
def effect (entries : InsertionMap Int ExportEntry) : OtherWrite → InsertionMap Int ExportEntry
  | .addOrUpdate values previous fresh publishedAs =>
      entries.set values.deviceId (dialogEntry values previous fresh publishedAs)
  | .remove deviceId => entries.delete deviceId
  | .migrate listed source targetId targetPrevious =>
      InsertionMap.ofList ((migratedEntries listed source targetId targetPrevious).map fun entry =>
        (entry.indigoDeviceId, entry))

end OtherWrite

/-! ## What a commit leaves -/

namespace ExportStore

/-- Whether an upsert of an entry lands. -/
def lands (flush : Flush) (entry : ExportEntry) : Bool :=
  flush = .saved && (validateEntry entry).isOk

theorem commit_spec (flush : Flush) (pending : InsertionMap Int ExportEntry)
    (store : ExportStore) :
    wp (commit flush pending) (fun _ final => flush = .saved ∧ final.entries = pending)
      (fun _ final => flush ≠ .saved ∧ final.entries = store.entries) store := by
  unfold commit
  cases flush <;> simp

theorem orRaise_spec (checked : Except EntryError Unit) (store : ExportStore) :
    wp (orRaise checked) (fun _ final => checked.isOk = true ∧ final = store)
      (fun _ final => checked.isOk = false ∧ final = store) store := by
  cases checked <;> simp [orRaise, Except.isOk, Except.toBool]

/-- An upsert that lands stores its entry under its device; one that raises
changes nothing. -/
theorem upsert_spec (flush : Flush) (entry : ExportEntry) (store : ExportStore) :
    wp (upsert flush entry)
      (fun _ final => lands flush entry = true ∧
        final.entries = store.entries.set entry.indigoDeviceId entry)
      (fun _ final => lands flush entry = false ∧ final.entries = store.entries) store := by
  rw [upsert, wp_bind]
  refine wp_mono (orRaise_spec _ store) ?_ ?_
  · rintro _ _ ⟨valid, rfl⟩
    rw [wp_bind, wp_get, wp_bind]
    refine wp_mono (commit_spec flush _ _) ?_ ?_
    · rintro _ final ⟨rfl, entries⟩
      exact ⟨by simp [lands, valid], entries⟩
    · rintro _ final ⟨unsaved, entries⟩
      exact ⟨by simp [lands, unsaved], entries⟩
  · rintro _ _ ⟨invalid, rfl⟩
    exact ⟨by simp [lands, invalid], rfl⟩

theorem remove_spec (flush : Flush) (deviceId : Int) (store : ExportStore) :
    wp (remove flush deviceId) (fun _ final => final.entries = store.entries.delete deviceId)
      (fun _ final => final.entries = store.entries) store := by
  rw [remove, wp_bind, wp_get]
  dsimp only
  by_cases present : store.entries.has deviceId = true
  · rw [if_pos present, wp_bind]
    exact wp_mono (commit_spec flush _ _) (fun _ _ saved => saved.2) fun _ _ failed => failed.2
  · rw [if_neg present]
    rw [InsertionMap.has_iff] at present
    exact (InsertionMap.delete_of_notMem present).symm

theorem replaceAll_spec (flush : Flush) (listed : List ExportEntry) (store : ExportStore) :
    wp (replaceAll flush listed)
      (fun _ final => final.entries =
        InsertionMap.ofList (listed.map fun entry => (entry.indigoDeviceId, entry)))
      (fun _ final => final.entries = store.entries) store := by
  rw [replaceAll, wp_bind]
  refine wp_mono (wp_forM (fun _ middle => middle = store) (fun _ middle => middle = store)
    ?_ listed store rfl) ?_ ?_
  · rintro entry rest _ rfl
    exact wp_mono (orRaise_spec _ _) (fun _ _ checked => checked.2) fun _ _ refused => refused.2
  · rintro _ _ rfl
    exact wp_mono (commit_spec flush _ _) (fun _ _ saved => saved.2) fun _ _ failed => failed.2
  · rintro _ _ rfl
    rfl

end ExportStore

/-- A commit that works has its effect on the list, and one that raises has none. -/
theorem OtherWrite.run_spec (flush : Flush) (write : OtherWrite) (store : ExportStore) :
    wp (write.run flush) (fun _ final => final.entries = write.effect store.entries)
      (fun _ final => final.entries = store.entries) store := by
  cases write with
  | addOrUpdate values previous fresh publishedAs =>
      rw [run, wp_bind]
      exact wp_mono (ExportStore.upsert_spec flush _ store) (fun _ _ saved => saved.2)
        fun _ _ failed => failed.2
  | remove deviceId =>
      rw [run, wp_bind]
      exact wp_mono (ExportStore.remove_spec flush deviceId store) (fun _ _ saved => saved)
        fun _ _ failed => failed
  | migrate listed source targetId targetPrevious =>
      exact ExportStore.replaceAll_spec flush _ store

end IndigoMatter.Plugin
