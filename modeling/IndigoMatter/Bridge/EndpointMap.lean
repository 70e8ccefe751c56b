import IndigoMatter.Bridge.Protocol
import IndigoMatter.Library.InsertionMap
import IndigoMatter.Library.Transition

/-!
# The endpoint map

`endpoint-map.ts` is the witness of the endpoint numbers: a file that says what
the number of every published identity was last time, and what it takes to
rebuild the endpoint.  matter.js allocates the numbers; nothing here does.

The store carries the file it writes to and the outcomes of its writes, newest
first, so that an operation that writes nothing can be told from one that
writes what is already there.  Every operation that persists takes whether the
write lands.  The log, the warnings channel and the quarantine copy of an
unusable file are only ever written, and are left out.
-/

namespace IndigoMatter.Bridge

open IndigoMatter.Library

/-- Sibling of `identity.json` in the bridge storage dir. -/
def ENDPOINT_MAP_FILE : String := "endpoint-map.json"

/-- Schema version of the persisted file. -/
def ENDPOINT_MAP_VERSION : Int := 2

/-- The numbers-only shape; still read, never written again. -/
def ENDPOINT_MAP_VERSION_LEGACY : Int := 1

/-- One persisted endpoint.  The markers are optional literals `true` in the
file, so an absent one is `false`. -/
structure EndpointRecord where
  number : Nat
  role : Option String := none
  label : Option String := none
  numberVoid : Bool := false
  orphaned : Bool := false
  battery : Bool := false
  deviceId : Option Int := none
  supersededBy : Option String := none
deriving DecidableEq

/-- One live endpoint, as the detector sees it; an absent `battery` is not
told from `false`. -/
structure LiveEndpointNumber where
  uniqueId : String
  endpointNumber : Nat
  role : Option String := none
  label : Option String := none
  battery : Bool := false
  deviceId : Option Int := none
deriving DecidableEq

/-- An entry complete enough to be rebuilt before going online. -/
structure RestorableEndpoint where
  uniqueId : String
  endpointNumber : Nat
  role : String
  label : String
  battery : Bool
  indigoDeviceId : Int
deriving DecidableEq

/-- A live number that disagrees with the recorded one. -/
structure DriftEntry where
  uniqueId : String
  expected : Nat
  actual : Nat
deriving DecidableEq

/-! ## The file -/

/-- What stands at the path of the map. -/
inductive MapFile
  | absent
  | unreadable (message : String)
  | contents (value : Json)

/-- The outcome of reading the file: absent, usable, or present but broken. -/
structure EndpointMapLoad where
  endpoints : InsertionMap String EndpointRecord
  present : Bool
  problem : Option String

/-- A property that holds a string other than the empty one. -/
def nonEmptyString : Option Json → Option String
  | some (.string text) => if text = "" then none else some text
  | _ => none

/-- The value of `isEndpointNumber`: a non-negative integer. -/
def endpointNumber : Option Json → Option Nat
  | some (.number value) => value.integer?.bind fun integer =>
      if 0 ≤ integer then some integer.toNat else none
  | _ => none

/-- Whether a property holds the literal `true`. -/
def isTrue : Option Json → Bool
  | some (.boolean value) => value
  | _ => false

/-- A property that holds an integer. -/
def integerProperty : Option Json → Option Int
  | some (.number value) => value.integer?
  | _ => none

/-- Read one entry in either schema.  A bad field other than the number costs
the field, not the entry. -/
def readRecord : Json → Option EndpointRecord
  | .object fields =>
      (endpointNumber (Json.property fields "number")).map fun number =>
        { number
          role := nonEmptyString (Json.property fields "role")
          label := nonEmptyString (Json.property fields "label")
          numberVoid := isTrue (Json.property fields "numberVoid")
          orphaned := isTrue (Json.property fields "orphaned")
          battery := isTrue (Json.property fields "battery")
          deviceId := integerProperty (Json.property fields "deviceId")
          supersededBy := nonEmptyString (Json.property fields "supersededBy") }
  | value => (endpointNumber (some value)).map fun number => { number }

/-- Parse the `endpoints` object; one unusable entry makes it no map at all. -/
def readEndpoints : Option Json → Option (InsertionMap String EndpointRecord)
  | some (.object fields) =>
      -- A parsed object lists integer-like names first; no operation depends on the order.
      ((InsertionMap.ofList fields).entries.mapM fun entry =>
        (readRecord entry.2).map fun record => (entry.1, record)).map InsertionMap.ofList
  | _ => none

/-- Whether the version of a file is one that can be read. -/
def isKnownVersion (version : Option Json) : Bool :=
  match integerProperty version with
  | some value => value = ENDPOINT_MAP_VERSION || value = ENDPOINT_MAP_VERSION_LEGACY
  | none => false

/-- Read the parsed file, or `none` when it is not an endpoint map. -/
def readMapFile : Json → Option (InsertionMap String EndpointRecord)
  | .object fields =>
      if isKnownVersion (Json.property fields "version") then
        readEndpoints (Json.property fields "endpoints")
      else none
  | _ => none

/-- Read the map at a path; never throws. -/
def loadEndpointMap (path : String) : MapFile → EndpointMapLoad
  | .absent => ⟨∅, false, none⟩
  | .unreadable message => ⟨∅, true, some (path ++ " is unreadable (" ++ message ++ ")")⟩
  | .contents value =>
      match readMapFile value with
      | some endpoints => ⟨endpoints, true, none⟩
      | none =>
          ⟨∅, true, some (path ++ " is not a version " ++ toString ENDPOINT_MAP_VERSION ++
            " (or legacy version " ++ toString ENDPOINT_MAP_VERSION_LEGACY ++ ") endpoint map")⟩

/-- A property that is written only when it has a value. -/
def optionalField (name : String) (value : Option Json) : Struct :=
  value.toList.map fun present => (name, present)

/-- A marker, written only when it is set. -/
def markerField (name : String) (marker : Bool) : Struct :=
  optionalField name (if marker then some (.boolean true) else none)

/-- A record as `JSON.stringify` writes it. -/
def EndpointRecord.toJson (record : EndpointRecord) : Json :=
  .object <|
    ("number", .number (.ofInt record.number)) ::
      (optionalField "role" (record.role.map Json.string) ++
        optionalField "label" (record.label.map Json.string) ++
        markerField "numberVoid" record.numberVoid ++
        markerField "orphaned" record.orphaned ++
        markerField "battery" record.battery ++
        optionalField "deviceId" (record.deviceId.map fun id => Json.number (.ofInt id)) ++
        optionalField "supersededBy" (record.supersededBy.map Json.string))

/-- The on-disk shape of a map. -/
def mapFile (endpoints : InsertionMap String EndpointRecord) : Json :=
  .object
    [("version", .number (.ofInt ENDPOINT_MAP_VERSION)),
     ("endpoints", .object (endpoints.entries.map fun entry => (entry.1, entry.2.toJson)))]

/-! ## Records -/

/-- A fresh record from a live endpoint, carrying whatever it could tell us. -/
def recordFor (entry : LiveEndpointNumber) : EndpointRecord :=
  { number := entry.endpointNumber
    role := entry.role
    label := entry.label
    battery := entry.battery
    deviceId := entry.deviceId }

/-- What a live endpoint leaves of a record: it refreshes the restoration half,
where an absent value erases nothing, and takes the markers of departure off.
The number and `numberVoid` stay. -/
def restoredRecord (record : EndpointRecord) (entry : LiveEndpointNumber) : EndpointRecord :=
  { record with
    role := entry.role.or record.role
    label := entry.label.or record.label
    battery := entry.battery || record.battery
    deviceId := entry.deviceId.or record.deviceId
    orphaned := false
    supersededBy := none }

/-- Refresh a record from a live endpoint; says whether anything changed. -/
def noteRestorable (record : EndpointRecord) (entry : LiveEndpointNumber) :
    EndpointRecord × Bool :=
  (restoredRecord record entry,
    (entry.role.isSome && record.role != entry.role) ||
    (entry.label.isSome && record.label != entry.label) ||
    (entry.battery && !record.battery) ||
    (entry.deviceId.isSome && record.deviceId != entry.deviceId) ||
    record.orphaned ||
    record.supersededBy.isSome)

/-! ## The store -/

/-- The map in memory, the file it is written to and the outcomes of the writes,
newest first.  `checkRan` is the source's `#checked`. -/
structure EndpointMapStore where
  path : String
  endpoints : InsertionMap String EndpointRecord
  present : Bool
  problem : Option String
  checkRan : Bool
  dirty : Bool
  file : MapFile
  writes : List Bool

namespace EndpointMapStore

/-- A store that has not read its file. -/
def unread (path : String) (file : MapFile) : EndpointMapStore :=
  { path
    endpoints := ∅
    present := false
    problem := none
    checkRan := false
    dirty := false
    file
    writes := [] }

/-- Read the file into memory; the last read wins. -/
def load (store : EndpointMapStore) : EndpointMapStore :=
  let loaded := loadEndpointMap store.path store.file
  { store with
    endpoints := loaded.endpoints
    present := loaded.present
    problem := loaded.problem
    checkRan := false
    dirty := false }

/-- A store that has just read a file. -/
def opened (path : String) (file : MapFile) : EndpointMapStore := (unread path file).load

/-- There is a baseline: a usable file has been read or written. -/
def baseline (store : EndpointMapStore) : Bool := store.present && store.problem.isNone

/-- Whether an empty drift is an answer rather than an absence. -/
def checked (store : EndpointMapStore) : Bool := store.checkRan && !store.dirty

/-- The number of entries. -/
def size (store : EndpointMapStore) : Nat := store.endpoints.size

/-- Write the current map; never throws. -/
def persist (lands : Bool) (store : EndpointMapStore) : EndpointMapStore :=
  if lands then
    { store with
      present := true
      dirty := false
      problem := none
      file := .contents (mapFile store.endpoints)
      writes := true :: store.writes }
  else { store with dirty := true, writes := false :: store.writes }

/-- Write the map when there is something to write. -/
def persistWhen (needed : Bool) (lands : Bool) (store : EndpointMapStore) : EndpointMapStore :=
  if needed then store.persist lands else store

/-- The device a restore would build an entry for. -/
def drivingDevice (uniqueId : String) (record : EndpointRecord) : Option Int :=
  record.deviceId.or ((parsePublishedId uniqueId).map PublishedId.deviceId)

/-- What a restore makes of one entry, if it can rebuild it. -/
def restorableEntry (uniqueId : String) (record : EndpointRecord) : Option RestorableEndpoint :=
  match record.role, record.label with
  | some role, some label =>
      if record.orphaned ∨ record.supersededBy.isSome then none
      else
        (drivingDevice uniqueId record).map fun indigoDeviceId =>
          { uniqueId
            endpointNumber := record.number
            role
            label
            battery := record.battery
            indigoDeviceId }
  | _, _ => none

/-- The entries complete enough to rebuild before the stack goes online. -/
def restorable (store : EndpointMapStore) : List RestorableEndpoint :=
  store.endpoints.entries.filterMap fun entry => restorableEntry entry.1 entry.2

/-- What forgetting does to one record, if it changes it. -/
def forgottenRecord (supersededBy : Option String) (record : EndpointRecord) :
    Option EndpointRecord :=
  if record.role.isNone ∧ record.label.isNone then none
  else
    let newlySuperseded := supersededBy.isSome ∧ record.supersededBy.isNone
    if record.orphaned ∧ ¬newlySuperseded then none
    else
      some
        { record with
          orphaned := true
          supersededBy := if newlySuperseded then supersededBy else record.supersededBy }

/-- Forget one identity, counting the records that changed. -/
def forgetOne (supersededBy : Option String)
    (state : InsertionMap String EndpointRecord × Nat) (uniqueId : String) :
    InsertionMap String EndpointRecord × Nat :=
  match (state.1.get? uniqueId).bind (forgottenRecord supersededBy) with
  | some record => (state.1.set uniqueId record, state.2 + 1)
  | none => state

/-- Mark un-exported identities orphaned, keeping number, role and label.
Returns how many entries changed. -/
def forget (uniqueIds : List String) (supersededBy : Option String) (lands : Bool)
    (store : EndpointMapStore) : Nat × EndpointMapStore :=
  let (endpoints, changed) :=
    uniqueIds.foldl (forgetOne supersededBy) (store.endpoints, 0)
  (changed, { store with endpoints }.persistWhen (0 < changed) lands)

/-- Delete one identity, counting the entries that existed. -/
def destroyOne (state : InsertionMap String EndpointRecord × Nat) (uniqueId : String) :
    InsertionMap String EndpointRecord × Nat :=
  if state.1.has uniqueId then (state.1.delete uniqueId, state.2 + 1) else state

/-- Drop records entirely.  Returns how many existed. -/
def destroy (uniqueIds : List String) (lands : Bool) (store : EndpointMapStore) :
    Nat × EndpointMapStore :=
  let (endpoints, removed) := uniqueIds.foldl destroyOne (store.endpoints, 0)
  (removed, { store with endpoints }.persistWhen (0 < removed) lands)

/-- What the pass of `check` over the live endpoints has done so far. -/
structure Pass where
  endpoints : InsertionMap String EndpointRecord
  drift : List DriftEntry
  added : Nat
  refreshed : Nat
  adopted : Nat

/-- The pass of `check` over one live endpoint. -/
def checkEntry (pass : Pass) (entry : LiveEndpointNumber) : Pass :=
  match pass.endpoints.get? entry.uniqueId with
  | none =>
      { pass with
        endpoints := pass.endpoints.set entry.uniqueId (recordFor entry)
        added := pass.added + 1 }
  | some found =>
      let (record, changed) := noteRestorable found entry
      let refreshed := if changed then pass.refreshed + 1 else pass.refreshed
      if record.numberVoid then
        { pass with
          endpoints := pass.endpoints.set entry.uniqueId
            { record with number := entry.endpointNumber, numberVoid := false }
          refreshed
          adopted := pass.adopted + 1 }
      else
        { pass with
          endpoints := pass.endpoints.set entry.uniqueId record
          drift :=
            if record.number ≠ entry.endpointNumber then
              pass.drift ++ [⟨entry.uniqueId, record.number, entry.endpointNumber⟩]
            else pass.drift
          refreshed }

/-- The pass over a live set. -/
def checkPass (endpoints : InsertionMap String EndpointRecord)
    (live : List LiveEndpointNumber) : Pass :=
  live.foldl checkEntry ⟨endpoints, [], 0, 0, 0⟩

/-- Compare the live endpoint numbers against the map.  A write that failed
earlier is owed, and is retried here. -/
def check (live : List LiveEndpointNumber) (lands : Bool) (store : EndpointMapStore) :
    List DriftEntry × EndpointMapStore :=
  let pass := checkPass store.endpoints live
  let needed := 0 < pass.added ∨ 0 < pass.refreshed ∨ 0 < pass.adopted ∨ store.dirty
  let written := { store with endpoints := pass.endpoints }.persistWhen needed lands
  -- An empty comparison compared nothing; it only ever raises the flag.
  (pass.drift, { written with checkRan := written.checkRan || live ≠ [] })

/-- Mark every number as no longer trustworthy, discarding none. -/
def voidNumbers (lands : Bool) (store : EndpointMapStore) : Bool × EndpointMapStore :=
  if store.endpoints.size = 0 then (false, store)
  else
    let endpoints := store.endpoints.mapValues fun _ record => { record with numberVoid := true }
    (lands, { store with endpoints, checkRan := false }.persist lands)

/-- The map that records a list of live endpoints and nothing else. -/
def recordsOf (live : List LiveEndpointNumber) : InsertionMap String EndpointRecord :=
  .ofList (live.map fun entry => (entry.uniqueId, recordFor entry))

/-- Adopt a baseline; `none` is the refusal to seed over a larger one. -/
def seed (numbers : List LiveEndpointNumber) (lands : Bool) (store : EndpointMapStore) :
    Option (Bool × EndpointMapStore) :=
  if 0 < store.endpoints.size ∧ numbers.length < store.endpoints.size then none
  else
    some (lands,
      { store with
        endpoints := recordsOf numbers
        problem := none
        checkRan := 0 < numbers.length }.persist lands)

/-- Throw the baseline away and adopt the live numbers as the truth. -/
def rebuild (live : List LiveEndpointNumber) (lands : Bool) (store : EndpointMapStore) :
    Bool × EndpointMapStore :=
  let written := { store with endpoints := recordsOf live, problem := none }.persist lands
  (lands, { written with checkRan := lands && 0 < live.length })

/-- Delete the file and forget everything; `deletes` says whether the file
could be deleted. -/
def discard (deletes : Bool) (store : EndpointMapStore) : Bool × EndpointMapStore :=
  let emptied :=
    { store with endpoints := ∅, problem := none, checkRan := false, dirty := false }
  if deletes then (true, { emptied with present := false, file := .absent }) else (false, emptied)

end EndpointMapStore

/-! ## Calls -/

/-- A live set: no identity is listed twice. -/
structure LiveSet where
  entries : List LiveEndpointNumber
  distinct : (entries.map LiveEndpointNumber.uniqueId).Nodup

/-- A call on the store, with whether its write (for `discard`, its delete)
lands. -/
inductive MapCall
  | load
  | check (live : LiveSet) (lands : Bool)
  | forget (uniqueIds : List String) (supersededBy : Option String) (lands : Bool)
  | destroy (uniqueIds : List String) (lands : Bool)
  | voidNumbers (lands : Bool)
  | seed (numbers : LiveSet) (lands : Bool)
  | rebuild (live : LiveSet) (lands : Bool)
  | discard (deletes : Bool)

/-- The store after a call; a refused `seed` leaves it alone. -/
def EndpointMapStore.after (store : EndpointMapStore) : MapCall → EndpointMapStore
  | .load => store.load
  | .check live lands => (store.check live.entries lands).2
  | .forget uniqueIds supersededBy lands => (store.forget uniqueIds supersededBy lands).2
  | .destroy uniqueIds lands => (store.destroy uniqueIds lands).2
  | .voidNumbers lands => (store.voidNumbers lands).2
  | .seed numbers lands => ((store.seed numbers.entries lands).map Prod.snd).getD store
  | .rebuild live lands => (store.rebuild live.entries lands).2
  | .discard deletes => (store.discard deletes).2

/-- Every call can be made in every state. -/
def EndpointMapStore.step : LabelledStep EndpointMapStore MapCall :=
  fun store call => some (store.after call)

end IndigoMatter.Bridge
