import IndigoMatter.Library.Transition
import IndigoMatter.Plugin.ExportWriters

/-!
# Adopting a learned bound

The learner reads the entry of a device, adds what it has learned, and writes the
whole entry back.  Between the two store operations another thread can commit.
A commit in between that only concerns other devices, or leaves all but the
learned bounds alone, is kept; any other commit of the device is undone by the
write.
-/

namespace IndigoMatter.Plugin

open IndigoMatter.Library
open IndigoMatter.Bridge (Role)

/-- The side of a range that a candidate is about. -/
inductive Side
  | min
  | max
deriving DecidableEq

namespace Side

def learnedKey : Side → String
  | min => OPTION_CT_LEARNED_MIN_MIREDS
  | max => OPTION_CT_LEARNED_MAX_MIREDS

def seedKey : Side → String
  | min => OPTION_CT_MIN_MIREDS
  | max => OPTION_CT_MAX_MIREDS

end Side

/-- What the learner is asked to adopt. -/
structure Candidate where
  deviceId : Int
  side : Side
  mireds : Int
  onlyIfUnclaimed : Bool

/-- Why a candidate is not adopted. -/
inductive Discard
  | noLongerExported
  | claimed (byMeasurement : Bool)
  | alreadyRecorded
  | collapses (newMin newMax : Int)
deriving DecidableEq

/-- The effective pair a candidate would lead to. -/
def proposedBounds (candidate : Candidate) (options : Options) : Int × Int :=
  match candidate.side with
  | .min => (candidate.mireds, (effectiveCtBounds options).2)
  | .max => ((effectiveCtBounds options).1, candidate.mireds)

/-- The entry `_adopt` writes back, from the one its read returned. -/
def adopt (candidate : Candidate) (fresh : Option ExportEntry) : Except Discard ExportEntry :=
  match fresh with
  | none => .error .noLongerExported
  | some entry =>
      let proposed := proposedBounds candidate entry.options
      let learned := ctBound? entry.options candidate.side.learnedKey
      let seeded := ctBound? entry.options candidate.side.seedKey
      if candidate.onlyIfUnclaimed ∧ (learned.isSome ∨ seeded.isSome) then
        .error (.claimed learned.isSome)
      else if (entry.options.get? candidate.side.learnedKey).any
          fun value => value.equalsInt candidate.mireds then
        .error .alreadyRecorded
      else if proposed.2 ≤ proposed.1 then .error (.collapses proposed.1 proposed.2)
      else
        .ok { entry with
          options := entry.options.set candidate.side.learnedKey (.int candidate.mireds) }

/-- The store, the entry the learner is about to write, and the list as the other
writers' commits alone would have left it, which no step reads. -/
structure SharedStore where
  store : ExportStore
  adopting : Option ExportEntry
  others : InsertionMap Int ExportEntry

/-- One store operation of the learner or a commit of another writer.  The learner
works on one candidate at a time: it holds its lock over both of its operations. -/
inductive StoreEvent
  | adoptGet (candidate : Candidate)
  | adoptUpsert (flush : Flush)
  | write (flush : Flush) (write : OtherWrite)

namespace SharedStore

/-- A store that has loaded a list, with nothing under way. -/
def loaded (listed : List ExportEntry) : SharedStore :=
  let entries := InsertionMap.ofList (listed.map fun entry => (entry.indigoDeviceId, entry))
  { store := ⟨entries, some ⟨SCHEMA_VERSION, (sortedEntries entries).map ExportEntry.toDict⟩⟩
    adopting := none
    others := entries }

/-- One event. -/
def step : LabelledStep SharedStore StoreEvent
  | state, .adoptGet candidate =>
      match state.adopting with
      | some _ => none
      | none =>
          match adopt candidate (state.store.get candidate.deviceId) with
          | .error _ => some state
          | .ok updated => some { state with adopting := some updated }
  | state, .adoptUpsert flush =>
      state.adopting.map fun updated =>
        { state with
          store := finalState (ExportStore.upsert flush updated state.store)
          adopting := none }
  | state, .write flush write =>
      let result := write.run flush state.store
      some { state with
        store := finalState result
        others := if (outcome result).isOk then write.effect state.others else state.others }

end SharedStore

/-! ## What the other writers own -/

/-- The fields of an entry that the learner has no business changing. -/
structure EntryCore where
  role : Role
  nameOverride : Option String
  publishedAs : Option String
  dialogOptions : List (String × PyValue)
deriving DecidableEq

/-- An entry without the learned bounds. -/
def ExportEntry.core (entry : ExportEntry) : EntryCore where
  role := entry.role
  nameOverride := entry.nameOverride
  publishedAs := entry.publishedAs
  dialogOptions := entry.options.entries.filter fun option => !decide (option.1 ∈ LEARNED_KEYS)

/-- The learner changes the learned bound of one side and nothing else. -/
theorem adopt_spec {candidate : Candidate} {fresh : Option ExportEntry} {updated : ExportEntry}
    (adopted : adopt candidate fresh = .ok updated) :
    ∃ entry, fresh = some entry ∧ updated.indigoDeviceId = entry.indigoDeviceId ∧
      updated.core = entry.core := by
  cases fresh with
  | none => cases adopted
  | some entry =>
      have learned : candidate.side.learnedKey ∈ LEARNED_KEYS := by
        cases candidate.side <;> decide
      refine ⟨entry, rfl, ?_⟩
      simp only [adopt] at adopted
      split at adopted
      · cases adopted
      · split at adopted
        · cases adopted
        · split at adopted
          · cases adopted
          · obtain rfl := Except.ok.inj adopted
            refine ⟨rfl, ?_⟩
            simp only [ExportEntry.core, EntryCore.mk.injEq, true_and]
            exact @InsertionMap.filter_entries_set _ _ _ (fun key => !decide (key ∈ LEARNED_KEYS))
              entry.options _ _ (by simp [learned])

/-! ## No other writer is undone -/

namespace SharedStore

/-- Apart from the learned bounds, the store is what the other writers have made
of it: the same devices are exported, with the same fields. -/
def PreservesOthers (state : SharedStore) : Prop :=
  ∀ deviceId, (state.store.get deviceId).map ExportEntry.core =
    (state.others.get? deviceId).map ExportEntry.core

/-- What must not happen: the learner's upsert lands although the entry of its
device is gone, or is not what its read returned in a field of another writer. -/
def stale (state : SharedStore) : StoreEvent → Bool
  | .adoptUpsert flush =>
      state.adopting.any fun updated =>
        ExportStore.lands flush updated &&
          decide ((state.store.get updated.indigoDeviceId).map ExportEntry.core ≠
            some updated.core)
  | _ => false

variable {state next : SharedStore}

theorem core_effect {first second : InsertionMap Int ExportEntry} (write : OtherWrite)
    (same : ∀ deviceId, (first.get? deviceId).map ExportEntry.core =
      (second.get? deviceId).map ExportEntry.core) (deviceId : Int) :
    ((write.effect first).get? deviceId).map ExportEntry.core =
      ((write.effect second).get? deviceId).map ExportEntry.core := by
  cases write with
  | addOrUpdate values previous fresh publishedAs =>
      simp only [OtherWrite.effect, InsertionMap.get?_set]
      split
      · rfl
      · exact same deviceId
  | remove removed =>
      simp only [OtherWrite.effect, InsertionMap.get?_delete]
      split
      · rfl
      · exact same deviceId
  | migrate listed source targetId targetPrevious => rfl

/-- A commit of another writer reaches the store and the list of the others alike. -/
theorem preservesOthers_write {flush : Flush} {write : OtherWrite}
    (holds : state.PreservesOthers) (taken : step state (.write flush write) = some next) :
    next.PreservesOthers := by
  obtain rfl := Option.some.inj taken
  have ran := OtherWrite.run_spec flush write state.store
  intro deviceId
  unfold wp at ran
  dsimp only
  cases result : write.run flush state.store with
  | error error final =>
      rw [result] at ran
      rw [finalState_error, ExportStore.get, ran]
      exact holds deviceId
  | ok value final =>
      rw [result] at ran
      rw [finalState_ok, ExportStore.get, ran]
      exact core_effect write holds deviceId

/-- The list after the learner's upsert. -/
theorem get_upsert (flush : Flush) (entry : ExportEntry) (store : ExportStore)
    (deviceId : Int) :
    (finalState (ExportStore.upsert flush entry store)).get deviceId =
      if ExportStore.lands flush entry = true ∧ deviceId = entry.indigoDeviceId then some entry
      else store.get deviceId := by
  have ran := ExportStore.upsert_spec flush entry store
  unfold wp at ran
  cases result : ExportStore.upsert flush entry store with
  | error error final =>
      rw [result] at ran
      rw [finalState_error, ExportStore.get, ran.2]
      simp [ran.1, ExportStore.get]
  | ok value final =>
      rw [result] at ran
      rw [finalState_ok, ExportStore.get, ran.2, InsertionMap.get?_set]
      simp [ran.1, ExportStore.get]

/-- The condition is exact for one upsert of the learner. -/
theorem preservesOthers_adoptUpsert_iff {flush : Flush} (holds : state.PreservesOthers)
    (taken : step state (.adoptUpsert flush) = some next) :
    next.PreservesOthers ↔ state.stale (.adoptUpsert flush) = false := by
  obtain ⟨updated, adopting, rfl⟩ := Option.map_eq_some_iff.mp taken
  simp only [stale, adopting, Option.any_some, Bool.and_eq_false_imp, decide_eq_false_iff_not,
    ne_eq, Decidable.not_not]
  constructor
  · intro preserved landed
    have own := preserved updated.indigoDeviceId
    dsimp only at own
    rw [get_upsert, if_pos ⟨landed, rfl⟩, Option.map_some, ← holds] at own
    exact own.symm
  · intro current deviceId
    dsimp only
    rw [get_upsert]
    split
    · rename_i written
      obtain ⟨landed, rfl⟩ := written
      rw [Option.map_some, ← holds, current landed]
    · exact holds deviceId

theorem preservesOthers_step {event : StoreEvent} (holds : state.PreservesOthers)
    (current : state.stale event = false) (taken : step state event = some next) :
    next.PreservesOthers := by
  cases event with
  | adoptGet candidate =>
      rw [step] at taken
      split at taken
      · cases taken
      · split at taken
        · obtain rfl := Option.some.inj taken
          exact holds
        · obtain rfl := Option.some.inj taken
          exact holds
  | adoptUpsert flush => exact (preservesOthers_adoptUpsert_iff holds taken).mpr current
  | write flush write => exact preservesOthers_write holds taken

/-- In every run in which no upsert of the learner is stale, the store is, apart
from the learned bounds, what the commits of the other writers alone make of the
list it started with: no export that was removed or migrated away is back, and
every role, name, identity and dialog option is the one committed last. -/
theorem others_preserved_of_current_run {listed : List ExportEntry} {events : List StoreEvent}
    (run : RunWhere step (fun state event => state.stale event = false) (loaded listed) events
      state) :
    state.PreservesOthers :=
  run.invariant (fun _ => rfl) fun _ _ _ holds current taken =>
    preservesOthers_step holds current taken

/-! ## When no commit comes in between -/

/-- A commit of another writer changes the entry the learner is about to write. -/
def disturbs (state : SharedStore) : StoreEvent → Bool
  | .write flush write =>
      state.adopting.any fun updated =>
        decide (((finalState (write.run flush state.store)).get updated.indigoDeviceId).map
          ExportEntry.core ≠ (state.store.get updated.indigoDeviceId).map ExportEntry.core)
  | _ => false

/-- Every entry is stored under its own device. -/
def WellKeyed (entries : InsertionMap Int ExportEntry) : Prop :=
  ∀ deviceId entry, entries.get? deviceId = some entry → entry.indigoDeviceId = deviceId

theorem wellKeyed_ofList (listed : List ExportEntry) :
    WellKeyed (InsertionMap.ofList (listed.map fun entry => (entry.indigoDeviceId, entry))) := by
  intro deviceId entry stored
  obtain ⟨other, -, same⟩ := List.mem_map.mp (InsertionMap.mem_of_get?_ofList stored)
  obtain ⟨rfl, rfl⟩ := Prod.mk.inj same
  rfl

theorem wellKeyed_set {entries : InsertionMap Int ExportEntry} {entry : ExportEntry}
    (keyed : WellKeyed entries) : WellKeyed (entries.set entry.indigoDeviceId entry) := by
  intro deviceId other stored
  rw [InsertionMap.get?_set] at stored
  split at stored
  · rename_i own
    obtain rfl := Option.some.inj stored
    exact own.symm
  · exact keyed deviceId other stored

theorem wellKeyed_effect {entries : InsertionMap Int ExportEntry} (keyed : WellKeyed entries)
    (write : OtherWrite) : WellKeyed (write.effect entries) := by
  cases write with
  | addOrUpdate values previous fresh publishedAs =>
      exact @wellKeyed_set _ (dialogEntry values previous fresh publishedAs) keyed
  | remove removed =>
      intro deviceId entry stored
      rw [OtherWrite.effect, InsertionMap.get?_delete] at stored
      split at stored
      · cases stored
      · exact keyed deviceId entry stored
  | migrate listed source targetId targetPrevious => exact wellKeyed_ofList _

/-- The learner's read still stands. -/
structure Current (state : SharedStore) : Prop where
  keyed : WellKeyed state.store.entries
  read : ∀ updated, state.adopting = some updated →
    (state.store.get updated.indigoDeviceId).map ExportEntry.core = some updated.core

theorem current_step {event : StoreEvent} (holds : state.Current)
    (undisturbed : state.disturbs event = false) (taken : step state event = some next) :
    next.Current := by
  cases event with
  | adoptGet candidate =>
      rw [step] at taken
      split at taken
      · cases taken
      · split at taken
        · obtain rfl := Option.some.inj taken
          exact holds
        · rename_i updated adopted
          obtain rfl := Option.some.inj taken
          refine ⟨holds.keyed, ?_⟩
          intro other same
          obtain rfl : updated = other := Option.some.inj same
          obtain ⟨entry, stored, device, core⟩ := adopt_spec adopted
          dsimp only
          rw [device, holds.keyed _ entry stored, stored, Option.map_some, core]
  | adoptUpsert flush =>
      obtain ⟨updated, -, rfl⟩ := Option.map_eq_some_iff.mp taken
      refine ⟨?_, fun other none => by cases none⟩
      have wrote : wp (ExportStore.upsert flush updated)
          (fun _ final => WellKeyed final.entries) (fun _ final => WellKeyed final.entries)
          state.store := by
        refine wp_mono (ExportStore.upsert_spec flush updated state.store) ?_ ?_
        · rintro _ final ⟨-, entries⟩
          rw [entries]
          exact wellKeyed_set holds.keyed
        · rintro _ final ⟨-, entries⟩
          rw [entries]
          exact holds.keyed
      exact final_of_wp (fun final : ExportStore => WellKeyed final.entries) wrote
  | write flush write =>
      obtain rfl := Option.some.inj taken
      constructor
      · have wrote : wp (write.run flush) (fun _ final => WellKeyed final.entries)
            (fun _ final => WellKeyed final.entries) state.store := by
          refine wp_mono (OtherWrite.run_spec flush write state.store) ?_ ?_
          · intro _ final entries
            rw [entries]
            exact wellKeyed_effect holds.keyed write
          · intro _ final entries
            rw [entries]
            exact holds.keyed
        exact final_of_wp (fun final : ExportStore => WellKeyed final.entries) wrote
      · intro updated adopting
        dsimp only at adopting
        simp only [disturbs, adopting, Option.any_some, decide_eq_false_iff_not, ne_eq,
          Decidable.not_not] at undisturbed
        rw [undisturbed]
        exact holds.read updated adopting

/-- When no other commit changes the entry between the learner's read and its
write, the write is not stale. -/
theorem not_stale_of_undisturbed_run {listed : List ExportEntry} {events : List StoreEvent}
    (run : RunWhere step (fun state event => state.disturbs event = false) (loaded listed)
      events state) (flush : Flush) :
    state.stale (.adoptUpsert flush) = false := by
  have holds : state.Current := run.invariant
    ⟨wellKeyed_ofList listed, fun _ none => by cases none⟩
    fun _ _ _ holds undisturbed taken => current_step holds undisturbed taken
  cases adopting : state.adopting with
  | none => simp [stale, adopting]
  | some updated =>
      have read := holds.read updated adopting
      simp only [stale, adopting, Option.any_some, read, ne_eq, not_true, decide_false,
        Bool.and_false]

/-! ## An un-export that comes in between -/

def ctLight (deviceId : Int) : ExportEntry where
  indigoDeviceId := deviceId
  role := .colorTemperatureLight
  nameOverride := none
  options := ∅
  publishedAs := none

/-- The dialog names a light. -/
def rename (deviceId : Int) (name : String) : OtherWrite :=
  .addOrUpdate ⟨deviceId, .colorTemperatureLight, some name, ∅, false, .untouched⟩
    (some (ctLight deviceId)) (some (ctLight deviceId)) none

/-- The learner has seen light 7 stop at 400 mireds. -/
def warmLimit : Candidate := ⟨7, .max, 400, false⟩

/-- The state after a list of events that can all happen. -/
def play (listed : List ExportEntry) (events : List StoreEvent) : SharedStore :=
  (follow step (fun _ _ => True) (loaded listed) events).getD (loaded listed)

theorem others_preserved_around_adoption :
    (play [ctLight 7, ctLight 8] [.adoptGet warmLimit, .write .saved (rename 8 "Hall"),
      .adoptUpsert .saved, .write .saved (.remove 7)]).PreservesOthers := by
  have run : RunWhere step (fun state event => state.stale event = false)
      (loaded [ctLight 7, ctLight 8])
      [.adoptGet warmLimit, .write .saved (rename 8 "Hall"), .adoptUpsert .saved,
        .write .saved (.remove 7)]
      (play [ctLight 7, ctLight 8] [.adoptGet warmLimit, .write .saved (rename 8 "Hall"),
        .adoptUpsert .saved, .write .saved (.remove 7)]) := runWhere_of_follow (by rfl)
  exact others_preserved_of_current_run run

/-- Removed between the learner's read and its write, an export is back. -/
theorem removed_export_reappears :
    ¬ ∀ (listed : List ExportEntry) (events : List StoreEvent) (state : SharedStore),
      Run step (loaded listed) events state → state.PreservesOthers := by
  intro claimed
  have run : Run step (loaded [ctLight 7])
      [.adoptGet warmLimit, .write .saved (.remove 7), .adoptUpsert .saved]
      (play [ctLight 7] [.adoptGet warmLimit, .write .saved (.remove 7), .adoptUpsert .saved]) :=
    runWhere_of_follow (by rfl)
  exact absurd (claimed _ _ _ run 7) (by decide)

end SharedStore

end IndigoMatter.Plugin
