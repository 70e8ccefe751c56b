import IndigoMatter.Library.Fallible
import IndigoMatter.Plugin.CtBounds
import Mathlib.Data.List.Sort

/-!
# The export store

The allow-list of exported devices, keyed on the device, and the preference it is
kept in.  A write persists first and commits second: it puts the new list into
the preference, flushes, and only then adopts it in memory, so a write that
raises has changed nothing.
-/

namespace IndigoMatter.Plugin

open IndigoMatter.Library
open IndigoMatter.Bridge (Role parsePublishedId)

/-- One allow-listed device and what Indigo cannot supply about it. -/
structure ExportEntry where
  indigoDeviceId : Int
  role : Role
  nameOverride : Option String
  options : Options
  publishedAs : Option String

/-! ## Validation -/

def OPTION_INVERT : String := "invert"

def OPTION_STATE_KEY : String := "stateKey"

def OPTION_STATE_INVERT : String := "stateInvert"

/-- The roles a state mapping means anything for. -/
def MAPPABLE_ROLES : List Role :=
  [.occupancySensor, .contactSensor, .waterLeakDetector, .waterFreezeDetector, .rainSensor,
    .smokeAlarm, .coAlarm]

/-- The roles with a polarity. -/
def INVERTIBLE_ROLES : List Role := [.windowCovering]

/-- A refusal, with what its message names. -/
inductive EntryError
  | notBoolean (key : String) (deviceId : Int)
  | notText (key : String) (deviceId : Int)
  | notInteger (key : String) (deviceId : Int)
  | meaningless (key : String) (role : Role) (deviceId : Int)
  | incompletePair (minKey maxKey : String) (deviceId : Int)
  | outsideDomain (key : String) (value : Int) (deviceId : Int)
  | invalidPair (minKey maxKey : String) (minValue maxValue : Int) (deviceId : Int)
  | unlawfulIdentity (publishedAs : String) (deviceId : Int)
deriving DecidableEq

/-- An option with a type of its own, on the roles it means anything for. -/
def validateOption (key : String) (wellTyped : PyValue → Bool) (refusal : EntryError)
    (roles : List Role) (options : Options) (role : Role) (deviceId : Int) :
    Except EntryError Unit :=
  match options.get? key with
  | none => .ok ()
  | some value =>
      if !wellTyped value then .error refusal
      else if role ∈ roles then .ok ()
      else .error (.meaningless key role deviceId)

/-- A bound that is present has to be an integer. -/
def validateBoundType (key : String) (options : Options) (deviceId : Int) :
    Except EntryError Unit :=
  match options.get? key with
  | none => .ok ()
  | some value => if value.integer?.isSome then .ok () else .error (.notInteger key deviceId)

/-- One pair of bounds; the seed pair has to be complete. -/
def validateCtPair (minKey maxKey : String) (seedPair : Bool) (options : Options) (role : Role)
    (deviceId : Int) : Except EntryError Unit :=
  if !(options.has minKey || options.has maxKey) then .ok ()
  else if role ∉ CT_ROLES then .error (.meaningless minKey role deviceId)
  else do
    validateBoundType minKey options deviceId
    validateBoundType maxKey options deviceId
    match ctBound? options minKey, ctBound? options maxKey with
    | some minValue, some maxValue =>
        if GENERIC_MIN_MIREDS ≤ minValue ∧ minValue < maxValue ∧ maxValue ≤ GENERIC_MAX_MIREDS
        then .ok ()
        else .error (.invalidPair minKey maxKey minValue maxValue deviceId)
    | some value, none => lone minKey value
    | none, some value => lone maxKey value
    | none, none => .ok ()
where
  /-- A lone side: refused in a seed, and inside the domain otherwise. -/
  lone (key : String) (value : Int) : Except EntryError Unit :=
    if seedPair then .error (.incompletePair minKey maxKey deviceId)
    else if GENERIC_MIN_MIREDS ≤ value ∧ value ≤ GENERIC_MAX_MIREDS then .ok ()
    else .error (.outsideDomain key value deviceId)

/-- `_validate_ct_bounds`. -/
def validateCtBounds (options : Options) (role : Role) (deviceId : Int) :
    Except EntryError Unit := do
  validateCtPair OPTION_CT_MIN_MIREDS OPTION_CT_MAX_MIREDS true options role deviceId
  validateCtPair OPTION_CT_LEARNED_MIN_MIREDS OPTION_CT_LEARNED_MAX_MIREDS false options role
    deviceId

/-- `_validate_options`. -/
def validateOptions (options : Options) (role : Role) (deviceId : Int) :
    Except EntryError Unit := do
  validateOption OPTION_INVERT PyValue.isBool (.notBoolean OPTION_INVERT deviceId)
    INVERTIBLE_ROLES options role deviceId
  validateOption OPTION_STATE_KEY PyValue.isText (.notText OPTION_STATE_KEY deviceId)
    MAPPABLE_ROLES options role deviceId
  validateOption OPTION_STATE_INVERT PyValue.isBool (.notBoolean OPTION_STATE_INVERT deviceId)
    MAPPABLE_ROLES options role deviceId
  validateCtBounds options role deviceId

/-- What `upsert` and `replace_all` check of an entry before they write.  Both
parsers of a published identity accept the same texts. -/
def validateEntry (entry : ExportEntry) : Except EntryError Unit := do
  match entry.publishedAs with
  | some publishedAs =>
      if (parsePublishedId publishedAs).isNone then
        .error (.unlawfulIdentity publishedAs entry.indigoDeviceId)
  | none => pure ()
  validateOptions entry.options entry.role entry.indigoDeviceId

/-! ## Persistence -/

def SCHEMA_VERSION : Int := 1

/-- The persisted shape of an entry. -/
structure EntryDict where
  indigoDeviceId : Int
  role : String
  nameOverride : Option String
  options : List (String × PyValue)
  publishedAs : Option String
deriving DecidableEq

/-- The persisted payload; the preference holds its JSON text. -/
structure Payload where
  v : Int
  exports : List EntryDict
deriving DecidableEq

/-- `to_dict`. -/
def ExportEntry.toDict (entry : ExportEntry) : EntryDict where
  indigoDeviceId := entry.indigoDeviceId
  role := entry.role.name
  nameOverride := entry.nameOverride
  options := entry.options.entries
  publishedAs := entry.publishedAs

/-- The entries of a list in the order of their keys. -/
def sortedEntries (entries : InsertionMap Int ExportEntry) : List ExportEntry :=
  (entries.keys.insertionSort (· ≤ ·)).filterMap entries.get?

/-- The list in memory and the preference. -/
structure ExportStore where
  entries : InsertionMap Int ExportEntry
  pref : Option Payload

/-- What becomes of a flush; putting the preference back can fail as well. -/
inductive Flush
  | saved
  | failed
  | failedRollback
deriving DecidableEq

/-- What a write raises. -/
inductive StoreError
  | invalid (error : EntryError)
  | flush
deriving DecidableEq

/-- An operation of the store. -/
abbrev StoreOperation := EStateM StoreError ExportStore

namespace ExportStore

/-- `get`. -/
def get (store : ExportStore) (deviceId : Int) : Option ExportEntry := store.entries.get? deviceId

/-- `all`. -/
def all (store : ExportStore) : List ExportEntry := sortedEntries store.entries

/-- Raise what a check refuses. -/
def orRaise : Except EntryError Unit → StoreOperation PUnit
  | .ok _ => pure ⟨⟩
  | .error error => throw (.invalid error)

/-- `_commit`: persist, flush, and only then adopt. -/
def commit (flush : Flush) (pending : InsertionMap Int ExportEntry) : StoreOperation PUnit := do
  let payload : Payload := ⟨SCHEMA_VERSION, (sortedEntries pending).map ExportEntry.toDict⟩
  match flush with
  | .saved => modify fun _ => ⟨pending, some payload⟩
  | .failed => throw .flush
  | .failedRollback => do
      modify fun store => { store with pref := some payload }
      throw .flush

/-- `upsert`. -/
def upsert (flush : Flush) (entry : ExportEntry) : StoreOperation ExportEntry := do
  orRaise (validateEntry entry)
  commit flush ((← MonadState.get).entries.set entry.indigoDeviceId entry)
  return entry

/-- `remove`: whether the device was there. -/
def remove (flush : Flush) (deviceId : Int) : StoreOperation Bool := do
  let entries := (← MonadState.get).entries
  if entries.has deviceId then
    commit flush (entries.delete deviceId)
    return true
  else return false

/-- `replace_all`. -/
def replaceAll (flush : Flush) (entries : List ExportEntry) : StoreOperation PUnit := do
  forM entries fun entry => orRaise (validateEntry entry)
  commit flush (InsertionMap.ofList (entries.map fun entry => (entry.indigoDeviceId, entry)))

end ExportStore

end IndigoMatter.Plugin
