import IndigoMatter.Library.Fallible
import IndigoMatter.Library.Transition
import IndigoMatter.Plugin.EntryCodec

/-!
# The export store and its preference

A write of the export store puts the new list into the preference, flushes it and
only then adopts it in memory; a flush that raises puts the preference back.  A
load reads the preference row by row, drops the rows it cannot use and moves the
preference aside when it could not use all of it.

The list in memory is followed against what a load of the preference would give,
over every sequence of calls and every point at which a call can fail.
-/

namespace IndigoMatter.Plugin

open IndigoMatter.Library

/-! ## The list and the preferences -/

/-- The list in memory, each entry under its own device. -/
structure EntryTable where
  entries : InsertionMap Int EntryFields
  keyed : ∀ {deviceId : Int} {entry : EntryFields},
    entries.get? deviceId = some entry → entry.indigoDeviceId = deviceId

namespace EntryTable

/-- The list with no entry. -/
def empty : EntryTable := ⟨∅, fun stored => by simp at stored⟩

/-- The entry of a device. -/
def get? (table : EntryTable) (deviceId : Int) : Option EntryFields := table.entries.get? deviceId

/-- Store an entry under its device. -/
def insert (table : EntryTable) (entry : EntryFields) : EntryTable where
  entries := table.entries.set entry.indigoDeviceId entry
  keyed := by
    intro deviceId other stored
    rw [InsertionMap.get?_set] at stored
    split at stored
    · rename_i same
      cases stored
      exact same.symm
    · exact table.keyed stored

/-- Drop the entry of a device. -/
def erase (table : EntryTable) (deviceId : Int) : EntryTable where
  entries := table.entries.delete deviceId
  keyed := by
    intro other entry stored
    rw [InsertionMap.get?_delete] at stored
    split at stored
    · cases stored
    · exact table.keyed stored

/-- Store entries in turn; a later one replaces an earlier one of its device. -/
def ofList (entries : List EntryFields) : EntryTable := entries.foldl insert empty

/-- The entries in the order of their devices. -/
def sorted (table : EntryTable) : List EntryFields :=
  (table.entries.keys.insertionSort (· ≤ ·)).filterMap table.get?

@[simp]
theorem get?_empty (deviceId : Int) : empty.get? deviceId = none := rfl

@[simp]
theorem get?_insert (table : EntryTable) (entry : EntryFields) (deviceId : Int) :
    (table.insert entry).get? deviceId =
      if deviceId = entry.indigoDeviceId then some entry else table.get? deviceId :=
  InsertionMap.get?_set _ _ _ _

@[simp]
theorem get?_erase (table : EntryTable) (deviceId other : Int) :
    (table.erase deviceId).get? other = if other = deviceId then none else table.get? other :=
  InsertionMap.get?_delete _ _ _

theorem mem_sorted {table : EntryTable} {entry : EntryFields} :
    entry ∈ table.sorted ↔ table.get? entry.indigoDeviceId = some entry := by
  rw [sorted, List.mem_filterMap]
  constructor
  · rintro ⟨deviceId, _, stored⟩
    rw [table.keyed stored]
    exact stored
  · intro stored
    refine ⟨entry.indigoDeviceId, ?_, stored⟩
    rw [List.mem_insertionSort]
    exact InsertionMap.mem_keys_iff.mpr ⟨entry, stored⟩

theorem nodup_sorted (table : EntryTable) :
    (table.sorted.map EntryFields.indigoDeviceId).Nodup := by
  have keys : (table.entries.keys.insertionSort (· ≤ ·)).Nodup :=
    (List.perm_insertionSort _ _).nodup_iff.mpr table.entries.keys_nodup
  have listed : (table.sorted.map EntryFields.indigoDeviceId).Sublist
      ((table.entries.keys.insertionSort (· ≤ ·)).map id) :=
    filterMap_map_sublist fun _ _ _ stored => table.keyed stored
  rw [List.map_id] at listed
  exact keys.sublist listed

end EntryTable

/-- What a preference holds: a falsy value such as the empty text, the text of a
JSON document, or a value `json.loads` raises on. -/
inductive PrefValue
  | falsy
  | document (json : PyJson)
  | unreadable (raw : String)

/-- The preference of the list and the one an unreadable list is moved aside to. -/
structure StorePrefs where
  exports : Option PrefValue
  corrupt : Option PrefValue

/-- `load_error`: all of the list, or the rows that were dropped. -/
inductive LoadError
  | unreadable
  | dropped (count : Nat)

/-- The state of the store. -/
structure AllowList where
  table : EntryTable
  prefs : StorePrefs
  loadError : Option LoadError

/-! ## Load -/

/-- The injected validator: a reason to refuse an entry, or an exception. -/
abbrev EntryValidator := EntryFields → Except Unit (Option String)

/-- Whether `_reject` gives a reason; a validator that raises keeps the entry. -/
def rejects (validator : Option EntryValidator) (entry : EntryFields) : Bool :=
  match validator with
  | none => false
  | some validate =>
      match validate entry with
      | .ok (some reason) => reason ≠ ""
      | .ok none | .error _ => false

/-- The rows read so far. -/
structure LoadedRows where
  table : EntryTable
  dropped : Nat

/-- One row of the list.  Only a `ValueError` drops a row. -/
def loadRow (validator : Option EntryValidator) (loaded : LoadedRows) (item : PyJson) :
    Except RowError LoadedRows :=
  match EntryFields.fromDict item with
  | .error .unhashableRole => .error .unhashableRole
  | .error _ => .ok { loaded with dropped := loaded.dropped + 1 }
  | .ok entry =>
      if rejects validator entry then .ok { loaded with dropped := loaded.dropped + 1 }
      else .ok { loaded with table := loaded.table.insert entry }

/-- The rows of a document of this schema version. -/
def listedRows : PyJson → Option (List PyJson)
  | .dict fields =>
      match PyJson.field? fields KEY_VERSION, PyJson.field? fields KEY_EXPORTS with
      | some version, some (.list listed) =>
          if (optionView version).equalsInt SCHEMA_VERSION then some listed else none
      | _, _ => none
  | _ => none

/-- What `_load` makes of the preference: the list and `load_error`. -/
def decode (validator : Option EntryValidator) (pref : Option PrefValue) :
    Except RowError (EntryTable × Option LoadError) :=
  match pref with
  | none | some .falsy => .ok (.empty, none)
  | some (.unreadable _) => .ok (.empty, some .unreadable)
  | some (.document json) =>
      match listedRows json with
      | none => .ok (.empty, some .unreadable)
      | some listed => do
          let loaded ← listed.foldlM (loadRow validator) ⟨.empty, 0⟩
          return (loaded.table, if loaded.dropped = 0 then none else some (.dropped loaded.dropped))

/-- `_preserve`: the first rescue wins. -/
def preserve (prefs : StorePrefs) : StorePrefs :=
  match prefs.corrupt with
  | none | some .falsy => { prefs with corrupt := prefs.exports }
  | some _ => prefs

/-- The store as its constructor leaves it. -/
def AllowList.load (validator : Option EntryValidator) (prefs : StorePrefs) :
    Except RowError AllowList := do
  let (table, loadError) ← decode validator prefs.exports
  return ⟨table, if loadError.isSome then preserve prefs else prefs, loadError⟩

/-! ## Writes -/

/-- Where a write raises: not at all, at the preference, at the flush, or at the
flush and again as the preference is put back. -/
inductive CommitFate
  | saved
  | writeRaised
  | flushRaised
  | rollbackRaised
deriving DecidableEq

/-- What a write raises. -/
inductive StoreFailure
  | invalid (error : RowError)
  | write
  | flush

/-- The document of a list. -/
def storedDocument (table : EntryTable) : PyJson :=
  .dict
    [(KEY_VERSION, .int SCHEMA_VERSION),
      (KEY_EXPORTS, .list (table.sorted.map EntryFields.toDict))]

namespace AllowList

/-- Put a value into the preference of the list, or delete it. -/
def putExports (value : Option PrefValue) (store : AllowList) : AllowList :=
  { store with prefs := { store.prefs with exports := value } }

/-- `_commit`. -/
def commit (fate : CommitFate) (pending : EntryTable) : EStateM StoreFailure AllowList PUnit := do
  let previous := (← get).prefs.exports
  match fate with
  | .writeRaised => throw .write
  | .saved =>
      modify (putExports (some (.document (storedDocument pending))))
      modify fun store => { store with table := pending }
  | .flushRaised =>
      modify (putExports (some (.document (storedDocument pending))))
      modify (putExports previous)
      throw .flush
  | .rollbackRaised =>
      modify (putExports (some (.document (storedDocument pending))))
      throw .flush

/-- Raise what the checks of an entry refuse. -/
def checkOrRaise (entry : EntryFields) : EStateM StoreFailure AllowList PUnit :=
  match entry.check with
  | .ok _ => pure ⟨⟩
  | .error error => throw (.invalid error)

/-- `upsert`. -/
def upsert (fate : CommitFate) (entry : EntryFields) :
    EStateM StoreFailure AllowList EntryFields := do
  checkOrRaise entry
  commit fate ((← get).table.insert entry)
  return entry

/-- `remove`: whether the device was there. -/
def remove (fate : CommitFate) (deviceId : Int) : EStateM StoreFailure AllowList Bool := do
  let table := (← get).table
  if (table.get? deviceId).isSome then
    commit fate (table.erase deviceId)
    return true
  else return false

/-- `replace_all`. -/
def replaceAll (fate : CommitFate) (entries : List EntryFields) :
    EStateM StoreFailure AllowList PUnit := do
  forM entries checkOrRaise
  commit fate (.ofList entries)

end AllowList

/-- A call that writes. -/
inductive StoreCall
  | upsert (entry : EntryFields)
  | remove (deviceId : Int)
  | replaceAll (entries : List EntryFields)

namespace StoreCall

/-- The operation of a call. -/
def run (fate : CommitFate) : StoreCall → EStateM StoreFailure AllowList PUnit
  | upsert entry => do
      let _ ← AllowList.upsert fate entry
  | remove deviceId => do
      let _ ← AllowList.remove fate deviceId
  | replaceAll entries => AllowList.replaceAll fate entries

/-- The entries a call is handed. -/
def listed : StoreCall → List EntryFields
  | upsert entry => [entry]
  | remove _ => []
  | replaceAll entries => entries

/-- The list a call that works leaves. -/
def effect (table : EntryTable) : StoreCall → EntryTable
  | upsert entry => table.insert entry
  | remove deviceId => table.erase deviceId
  | replaceAll entries => .ofList entries

/-- Whether there is anything to write. -/
def writes (table : EntryTable) : StoreCall → Prop
  | remove deviceId => (table.get? deviceId).isSome
  | upsert _ | replaceAll _ => True

end StoreCall

/-! ## All or nothing -/

/-- A call that raises leaves the store as it was; one that returns leaves its
effect in the list and the document of that list in the preference. -/
def AllOrNothing (store : AllowList) (call : StoreCall) :
    EStateM.Result StoreFailure AllowList PUnit → Prop
  | .error _ final => final = store
  | .ok _ final =>
      (∀ deviceId, final.table.get? deviceId = (call.effect store.table).get? deviceId) ∧
        (call.writes store.table →
          final.prefs.exports = some (.document (storedDocument final.table))) ∧
        (¬call.writes store.table → final = store)

/-- What a commit leaves where putting the preference back works. -/
theorem AllowList.commit_spec {fate : CommitFate} (rolledBack : fate ≠ .rollbackRaised)
    (pending : EntryTable) (store : AllowList) :
    wp (AllowList.commit fate pending)
      (fun _ final => final = ⟨pending,
        ⟨some (.document (storedDocument pending)), store.prefs.corrupt⟩, store.loadError⟩)
      (fun _ final => final = store) store := by
  cases fate with
  | saved => rfl
  | writeRaised => rfl
  | flushRaised => rfl
  | rollbackRaised => exact absurd rfl rolledBack

theorem AllowList.checkOrRaise_spec (entry : EntryFields) (store : AllowList) :
    wp (AllowList.checkOrRaise entry)
      (fun _ final => final = store ∧ entry.check = .ok ()) (fun _ final => final = store)
      store := by
  rw [AllowList.checkOrRaise]
  split
  · rename_i accepted
    exact ⟨rfl, accepted⟩
  · rfl

/-- A call that returns was handed entries its checks accept. -/
def Checked (call : StoreCall) : Prop := ∀ entry ∈ call.listed, entry.check = .ok ()

theorem StoreCall.run_spec {fate : CommitFate} (rolledBack : fate ≠ .rollbackRaised)
    (call : StoreCall) (store : AllowList) :
    wp (call.run fate)
      (fun _ final => Checked call ∧ AllOrNothing store call (.ok ⟨⟩ final))
      (fun _ final => final = store) store := by
  cases call with
  | upsert entry =>
      rw [run, AllowList.upsert, wp_bind, wp_bind]
      refine wp_mono (AllowList.checkOrRaise_spec entry store) ?_ (fun _ _ same => same)
      rintro _ _ ⟨rfl, accepted⟩
      rw [wp_bind, wp_get, wp_bind]
      refine wp_mono (AllowList.commit_spec rolledBack _ _) ?_ (fun _ _ same => same)
      rintro _ _ rfl
      refine ⟨?_, fun _ => rfl, fun _ => rfl, fun nothing => absurd trivial nothing⟩
      intro other member
      rw [List.mem_singleton.mp member]
      exact accepted
  | remove deviceId =>
      rw [run, AllowList.remove, wp_bind, wp_bind, wp_get]
      by_cases present : (store.table.get? deviceId).isSome = true
      · rw [if_pos present, wp_bind]
        refine wp_mono (AllowList.commit_spec rolledBack _ _) ?_ (fun _ _ same => same)
        rintro _ _ rfl
        refine ⟨?_, fun _ => rfl, fun _ => rfl, fun nothing => absurd present nothing⟩
        intro other member
        cases member
      · rw [if_neg present]
        refine ⟨?_, ?_, fun something => absurd something present, fun _ => rfl⟩
        · intro other member
          cases member
        · intro other
          rw [effect, EntryTable.get?_erase]
          split
          · rename_i same
            subst same
            simpa using present
          · rfl
  | replaceAll entries =>
      rw [run, AllowList.replaceAll, wp_bind]
      refine wp_mono (wp_forM (fun rest final => final = store ∧
        ∀ entry ∈ entries, entry ∉ rest → entry.check = .ok ()) (fun _ final => final = store)
          ?_ entries store ⟨rfl, fun entry member missing => absurd member missing⟩) ?_
        (fun _ _ same => same)
      · rintro entry rest _ ⟨rfl, earlier⟩
        refine wp_mono (AllowList.checkOrRaise_spec entry _) ?_ (fun _ _ same => same)
        rintro _ _ ⟨rfl, accepted⟩
        refine ⟨rfl, fun other member missing => ?_⟩
        by_cases same : other = entry
        · rw [same]
          exact accepted
        · exact earlier other member (List.not_mem_cons_of_ne_of_not_mem same missing)
      · rintro _ _ ⟨rfl, accepted⟩
        refine wp_mono (AllowList.commit_spec rolledBack _ _) ?_ (fun _ _ same => same)
        rintro _ _ rfl
        exact ⟨fun entry member => accepted entry member (List.not_mem_nil), fun _ => rfl,
          fun _ => rfl, fun nothing => absurd trivial nothing⟩

/-! ## What a load gives back -/

/-- The entry a load makes of a stored one. -/
def reloaded? (validator : Option EntryValidator) (entry : EntryFields) : Option EntryFields :=
  match EntryFields.fromDict entry.toDict with
  | .ok read => if rejects validator read then none else some read
  | .error _ => none

/-- A load takes the entry as it is: its role is a known one, its override is not
the empty text, and the validator has nothing against it. -/
structure Reloadable (validator : Option EntryValidator) (entry : EntryFields) : Prop where
  known : entry.RoleKnown
  named : entry.nameOverride ≠ some ""
  unrejected : rejects validator entry = false

theorem reloaded?_device {validator : Option EntryValidator} {entry read : EntryFields}
    (found : reloaded? validator entry = some read) :
    read.indigoDeviceId = entry.indigoDeviceId := by
  rw [reloaded?] at found
  split at found
  · rename_i back
    split at found
    · cases found
    · cases found
      exact EntryFields.device_of_fromDict_toDict back
  · cases found

/-- Of the entries the writers accept, a load leaves exactly these unchanged. -/
theorem reloaded?_eq_self_iff {validator : Option EntryValidator} {entry : EntryFields}
    (accepted : entry.check = .ok ()) :
    reloaded? validator entry = some entry ↔ Reloadable validator entry := by
  rw [reloaded?]
  by_cases known : entry.RoleKnown
  · rw [EntryFields.fromDict_toDict known accepted]
    dsimp only
    by_cases named : entry.nameOverride = some ""
    · constructor
      · intro same
        split at same
        · cases same
        · have kept := congrArg EntryFields.nameOverride (Option.some.inj same)
          exact absurd (kept.trans named) (EntryFields.orNone_ne_empty _)
      · intro reloadable
        exact absurd named reloadable.named
    · rw [(EntryFields.orNone_eq_self_iff _).mpr named]
      cases rejected : rejects validator entry with
      | true => simpa using fun reloadable : Reloadable validator entry =>
          absurd (rejected.symm.trans reloadable.unrejected) (by decide)
      | false => simpa using Reloadable.mk known named rejected
  · rw [EntryFields.fromDict_toDict_of_unknown known]
    constructor
    · intro same
      cases same
    · intro reloadable
      exact absurd reloadable.known known

/-- What reading one stored row adds. -/
theorem loadRow_toDict (validator : Option EntryValidator) (entry : EntryFields)
    (loaded : LoadedRows) :
    ∃ dropped, loadRow validator loaded entry.toDict =
      .ok ⟨(reloaded? validator entry).elim loaded.table loaded.table.insert, dropped⟩ := by
  rw [loadRow, reloaded?]
  cases read : EntryFields.fromDict entry.toDict with
  | ok back =>
      dsimp only
      split
      · exact ⟨_, rfl⟩
      · exact ⟨_, rfl⟩
  | error error =>
      cases error with
      | unhashableRole => exact absurd read (EntryFields.fromDict_toDict_ne_unhashable entry)
      | _ => exact ⟨_, rfl⟩

/-- The entry of each device once a row has been read. -/
theorem get?_addRow (validator : Option EntryValidator) {table : EntryTable}
    {entry : EntryFields} (fresh : table.get? entry.indigoDeviceId = none) (deviceId : Int) :
    ((reloaded? validator entry).elim table table.insert).get? deviceId =
      if deviceId = entry.indigoDeviceId then reloaded? validator entry
      else table.get? deviceId := by
  cases found : reloaded? validator entry with
  | none =>
      split
      · rename_i same
        rw [same]
        exact fresh
      · rfl
  | some read =>
      have device := reloaded?_device found
      simp [device]

/-- The rows of entries of different devices are read independently. -/
theorem foldlM_loadRow (validator : Option EntryValidator) {entries : List EntryFields}
    (distinct : (entries.map EntryFields.indigoDeviceId).Nodup) (loaded : LoadedRows)
    (fresh : ∀ entry ∈ entries, loaded.table.get? entry.indigoDeviceId = none) :
    ∃ final, (entries.map EntryFields.toDict).foldlM (loadRow validator) loaded = .ok final ∧
      (∀ entry ∈ entries,
        final.table.get? entry.indigoDeviceId = reloaded? validator entry) ∧
      ∀ deviceId ∉ entries.map EntryFields.indigoDeviceId,
        final.table.get? deviceId = loaded.table.get? deviceId := by
  induction entries generalizing loaded with
  | nil => exact ⟨loaded, rfl, by simp, by simp⟩
  | cons entry rest ih =>
      rw [List.map_cons, List.nodup_cons] at distinct
      obtain ⟨dropped, read⟩ := loadRow_toDict validator entry loaded
      have added := get?_addRow validator (fresh entry List.mem_cons_self)
      obtain ⟨final, folded, given, others⟩ := ih distinct.2
        ⟨(reloaded? validator entry).elim loaded.table loaded.table.insert, dropped⟩ (by
          intro other member
          rw [added, if_neg]
          · exact fresh other (List.mem_cons_of_mem _ member)
          · intro same
            exact distinct.1 (same ▸ List.mem_map_of_mem member))
      refine ⟨final, ?_, ?_, ?_⟩
      · rw [List.map_cons, List.foldlM_cons, read]
        exact folded
      · intro other member
        rcases List.mem_cons.mp member with rfl | later
        · rw [others _ distinct.1, added, if_pos rfl]
        · exact given other later
      · intro deviceId missing
        rw [List.map_cons, List.mem_cons, not_or] at missing
        rw [others _ missing.2, added, if_neg missing.1]

/-- A load of the document of a list gives, under each device, what a load makes of
its entry. -/
theorem decode_storedDocument (validator : Option EntryValidator) (table : EntryTable) :
    ∃ loaded loadError,
      decode validator (some (.document (storedDocument table))) = .ok (loaded, loadError) ∧
        ∀ deviceId,
          loaded.get? deviceId = (table.get? deviceId).bind (reloaded? validator) := by
  obtain ⟨final, folded, given, others⟩ :=
    foldlM_loadRow validator table.nodup_sorted ⟨.empty, 0⟩ (fun _ _ => rfl)
  have rows : listedRows (storedDocument table) = some (table.sorted.map EntryFields.toDict) := rfl
  refine ⟨final.table, if final.dropped = 0 then none else some (.dropped final.dropped), ?_,
    fun deviceId => ?_⟩
  · simp only [decode, rows, folded]
    rfl
  · cases stored : table.get? deviceId with
    | some entry =>
        have device : entry.indigoDeviceId = deviceId := table.keyed stored
        subst device
        exact given entry (EntryTable.mem_sorted.mpr stored)
    | none =>
        rw [others]
        · rfl
        · intro member
          obtain ⟨entry, listed, rfl⟩ := List.mem_map.mp member
          rw [EntryTable.mem_sorted.mp listed] at stored
          cases stored

/-- The list in memory is what a load of the preference gives. -/
def Consistent (validator : Option EntryValidator) (store : AllowList) : Prop :=
  ∃ loaded loadError, decode validator store.prefs.exports = .ok (loaded, loadError) ∧
    ∀ deviceId, store.table.get? deviceId = loaded.get? deviceId

/-- Every entry of a list is one a load takes as it is. -/
def EntryTable.Reloads (validator : Option EntryValidator) (table : EntryTable) : Prop :=
  ∀ deviceId entry, table.get? deviceId = some entry →
    entry.check = .ok () ∧ Reloadable validator entry

theorem EntryTable.Reloads.consistent {validator : Option EntryValidator} {store : AllowList}
    (reloads : store.table.Reloads validator)
    (written : store.prefs.exports = some (.document (storedDocument store.table))) :
    Consistent validator store := by
  obtain ⟨loaded, loadError, decoded, read⟩ := decode_storedDocument validator store.table
  refine ⟨loaded, loadError, ?_, fun deviceId => ?_⟩
  · rw [written]
    exact decoded
  · rw [read]
    cases stored : store.table.get? deviceId with
    | none => rfl
    | some entry =>
        obtain ⟨accepted, reloadable⟩ := reloads _ _ stored
        exact ((reloaded?_eq_self_iff accepted).mpr reloadable).symm

/-- Memory is what a load gives, and stays that way. -/
structure Faithful (validator : Option EntryValidator) (store : AllowList) : Prop where
  reloads : store.table.Reloads validator
  consistent : Consistent validator store

namespace EntryTable.Reloads

variable {validator : Option EntryValidator} {table : EntryTable}

theorem empty : EntryTable.empty.Reloads validator := fun _ _ stored => by simp at stored

theorem insert (reloads : table.Reloads validator) {entry : EntryFields}
    (accepted : entry.check = .ok ()) (reloadable : Reloadable validator entry) :
    (table.insert entry).Reloads validator := by
  intro deviceId other stored
  rw [EntryTable.get?_insert] at stored
  split at stored
  · cases stored
    exact ⟨accepted, reloadable⟩
  · exact reloads _ _ stored

theorem erase (reloads : table.Reloads validator) (deviceId : Int) :
    (table.erase deviceId).Reloads validator := by
  intro other entry stored
  rw [EntryTable.get?_erase] at stored
  split at stored
  · cases stored
  · exact reloads _ _ stored

theorem ofList {entries : List EntryFields}
    (taken : ∀ entry ∈ entries, entry.check = .ok () ∧ Reloadable validator entry) :
    (EntryTable.ofList entries).Reloads validator := by
  have inserted : ∀ table : EntryTable, table.Reloads validator →
      (entries.foldl EntryTable.insert table).Reloads validator := by
    induction entries with
    | nil => exact fun _ reloads => reloads
    | cons entry rest ih =>
        intro table reloads
        obtain ⟨accepted, reloadable⟩ := taken entry List.mem_cons_self
        exact ih (fun other member => taken other (List.mem_cons_of_mem _ member)) _
          (reloads.insert accepted reloadable)
  exact inserted _ empty

/-- One row of a load keeps the list one that loads take as it is. -/
theorem loadRow {loaded next : LoadedRows} {item : PyJson}
    (reloads : loaded.table.Reloads validator)
    (read : loadRow validator loaded item = .ok next) : next.table.Reloads validator := by
  rw [Plugin.loadRow] at read
  split at read
  · cases read
  · cases read
    exact reloads
  · rename_i entry back
    split at read
    · cases read
      exact reloads
    · rename_i unrejected
      cases read
      have canonical := EntryFields.canonical_of_fromDict back
      exact reloads.insert canonical.accepted
        ⟨canonical.known, canonical.named, by simpa using unrejected⟩

theorem foldlM {items : List PyJson} {loaded final : LoadedRows}
    (reloads : loaded.table.Reloads validator)
    (read : items.foldlM (Plugin.loadRow validator) loaded = .ok final) :
    final.table.Reloads validator := by
  induction items generalizing loaded with
  | nil =>
      cases read
      exact reloads
  | cons item rest ih =>
      rw [List.foldlM_cons, bind_eq_ok_iff] at read
      obtain ⟨next, first, remaining⟩ := read
      exact ih (reloads.loadRow first) remaining

end EntryTable.Reloads

theorem decode_reloads {validator : Option EntryValidator} {pref : Option PrefValue}
    {table : EntryTable} {loadError : Option LoadError}
    (decoded : decode validator pref = .ok (table, loadError)) : table.Reloads validator := by
  unfold decode at decoded
  split at decoded
  · cases decoded
    exact EntryTable.Reloads.empty
  · cases decoded
    exact EntryTable.Reloads.empty
  · cases decoded
    exact EntryTable.Reloads.empty
  · split at decoded
    · cases decoded
      exact EntryTable.Reloads.empty
    · rw [bind_eq_ok_iff] at decoded
      obtain ⟨final, read, same⟩ := decoded
      cases same
      exact EntryTable.Reloads.empty.foldlM read

/-- Moving the preference aside leaves it where it is. -/
theorem preserve_exports (prefs : StorePrefs) : (preserve prefs).exports = prefs.exports := by
  rw [preserve]
  split <;> rfl

/-- A load leaves in memory what it decodes, and only entries it would take again. -/
theorem AllowList.load_spec {validator : Option EntryValidator} {prefs : StorePrefs}
    {store : AllowList} (loaded : AllowList.load validator prefs = .ok store) : Faithful validator store := by
  rw [AllowList.load, bind_eq_ok_iff] at loaded
  obtain ⟨⟨table, loadError⟩, decoded, same⟩ := loaded
  cases same
  refine ⟨decode_reloads decoded, table, loadError, ?_, fun _ => rfl⟩
  have untouched : (if loadError.isSome then preserve prefs else prefs).exports =
      prefs.exports := by
    split
    · exact preserve_exports prefs
    · rfl
  rw [untouched]
  exact decoded

/-! ## Runs -/

/-- A call, with where its write raises. -/
abbrev StoreAttempt := CommitFate × StoreCall

/-- Make a call. -/
def storeStep : LabelledStep AllowList StoreAttempt := fun store event =>
  some (finalState (event.2.run event.1 store))

/-- Putting the preference back works, and the entries the checks accept are ones a
load takes as they are. -/
def TakesAsIs (validator : Option EntryValidator) (_ : AllowList) (event : StoreAttempt) : Prop :=
  event.1 ≠ .rollbackRaised ∧
    ∀ entry ∈ event.2.listed, entry.check = .ok () → Reloadable validator entry

theorem StoreCall.effect_reloads {validator : Option EntryValidator} {table : EntryTable}
    (reloads : table.Reloads validator) {call : StoreCall} (checked : Checked call)
    (reloadable : ∀ entry ∈ call.listed, entry.check = .ok () → Reloadable validator entry) :
    (call.effect table).Reloads validator := by
  cases call with
  | upsert entry =>
      have member : entry ∈ (StoreCall.upsert entry).listed := List.mem_singleton_self entry
      exact reloads.insert (checked entry member) (reloadable entry member (checked entry member))
  | remove deviceId => exact reloads.erase deviceId
  | replaceAll entries =>
      exact .ofList fun entry member =>
        ⟨checked entry member, reloadable entry member (checked entry member)⟩

/-- One call keeps memory what a load of the preference gives. -/
theorem storeStep_faithful {validator : Option EntryValidator} {store next : AllowList}
    {event : StoreAttempt} (faithful : Faithful validator store)
    (takes : TakesAsIs validator store event) (taken : storeStep store event = some next) :
    Faithful validator next := by
  obtain ⟨fate, call⟩ := event
  have spec := StoreCall.run_spec takes.1 call store
  rw [storeStep] at taken
  cases Option.some.inj taken
  refine final_of_wp (Faithful validator) (wp_mono spec ?_ ?_)
  · rintro ⟨⟩ final ⟨checked, effect, written, unwritten⟩
    have kept : final.table.Reloads validator := by
      intro deviceId entry stored
      rw [effect] at stored
      exact call.effect_reloads faithful.reloads checked takes.2 _ _ stored
    refine ⟨kept, ?_⟩
    by_cases writes : call.writes store.table
    · exact kept.consistent (written writes)
    · rw [unwritten writes]
      exact faithful.consistent
  · rintro _ final rfl
    exact faithful

/-- After a call that works, a load takes exactly the reloadable entries of it as
they are. -/
theorem reload_iff {validator : Option EntryValidator} {store next : AllowList}
    {fate : CommitFate} (rolledBack : fate ≠ .rollbackRaised) {call : StoreCall}
    (returned : call.run fate store = .ok ⟨⟩ next) {entry : EntryFields}
    (listed : entry ∈ call.listed) (kept : next.table.get? entry.indigoDeviceId = some entry) :
    ∃ again, AllowList.load validator next.prefs = .ok again ∧
      (again.table.get? entry.indigoDeviceId = some entry ↔ Reloadable validator entry) := by
  have spec := StoreCall.run_spec rolledBack call store
  rw [wp, returned] at spec
  obtain ⟨checked, _, written, _⟩ := spec
  have writes : call.writes store.table := by
    cases call with
    | upsert other => trivial
    | remove deviceId => cases listed
    | replaceAll entries => trivial
  obtain ⟨loaded, loadError, decoded, read⟩ := decode_storedDocument validator next.table
  refine ⟨⟨loaded, if loadError.isSome then preserve next.prefs else next.prefs, loadError⟩,
    ?_, ?_⟩
  · rw [AllowList.load, written writes, decoded]
    rfl
  · dsimp only
    rw [read, kept]
    exact reloaded?_eq_self_iff (checked entry listed)

/-- In every run of calls from a load memory is what a load of the preference gives,
each call changes both or neither, and a load takes exactly the reloadable entries as
they are. -/
theorem storeCalls_allOrNothing (validator : Option EntryValidator) :
    (∀ (store : AllowList) (fate : CommitFate) (call : StoreCall), fate ≠ .rollbackRaised →
      AllOrNothing store call (call.run fate store)) ∧
    (∀ (prefs : StorePrefs) (start store : AllowList) (events : List StoreAttempt),
      AllowList.load validator prefs = .ok start →
      RunWhere storeStep (TakesAsIs validator) start events store →
      Consistent validator store) ∧
    ∀ (store next : AllowList) (fate : CommitFate) (call : StoreCall) (entry : EntryFields),
      fate ≠ .rollbackRaised → call.run fate store = .ok ⟨⟩ next → entry ∈ call.listed →
      next.table.get? entry.indigoDeviceId = some entry →
      ∃ again, AllowList.load validator next.prefs = .ok again ∧
        (again.table.get? entry.indigoDeviceId = some entry ↔ Reloadable validator entry) := by
  refine ⟨?_, ?_, ?_⟩
  · intro store fate call rolledBack
    have spec := StoreCall.run_spec rolledBack call store
    unfold wp at spec
    split at spec
    · rename_i result
      rw [result]
      exact spec.2
    · rename_i result
      rw [result]
      exact spec
  · intro prefs start store events loaded run
    have faithful : Faithful validator store :=
      run.invariant (AllowList.load_spec loaded) fun _ _ _ holds meets taken =>
        storeStep_faithful holds meets taken
    exact faithful.consistent
  · intro store next fate call entry rolledBack returned listed kept
    exact reload_iff rolledBack returned listed kept

/-- A light, a light with a blank override, and a store with nothing in it. -/
def hallLight : EntryFields := ⟨7, "onOffLight", none, ∅, none⟩

def blankName : EntryFields := { hallLight with nameOverride := some "" }

def noExports : AllowList := ⟨.empty, ⟨none, none⟩, none⟩

theorem storeCalls_allOrNothing_hallLight :
    AllOrNothing noExports (.upsert hallLight)
        ((StoreCall.upsert hallLight).run .flushRaised noExports) ∧
      Consistent none (finalState ((StoreCall.upsert hallLight).run .saved noExports)) ∧
      ∃ again, AllowList.load none
          (finalState ((StoreCall.upsert hallLight).run .saved noExports)).prefs = .ok again ∧
        (again.table.get? 7 = some hallLight ↔ Reloadable none hallLight) := by
  have known : hallLight.RoleKnown := rfl
  have takes : TakesAsIs none noExports (.saved, .upsert hallLight) := by
    refine ⟨by decide, fun entry member _ => ?_⟩
    rw [List.mem_singleton.mp member]
    exact ⟨known, by decide, rfl⟩
  obtain ⟨atomic, consistent, reload⟩ := storeCalls_allOrNothing none
  refine ⟨atomic noExports .flushRaised (.upsert hallLight) (by decide), ?_, ?_⟩
  · exact consistent ⟨none, none⟩ noExports _ [(.saved, .upsert hallLight)] rfl
      (.snoc .nil takes rfl)
  · exact reload noExports _ .saved (.upsert hallLight) hallLight (by decide) rfl
      (List.mem_singleton_self _) rfl

/-- Every entry a call accepts and keeps comes back as it is. -/
def AcceptedSurvive (validator : Option EntryValidator) : Prop :=
  ∀ (store next : AllowList) (fate : CommitFate) (call : StoreCall) (entry : EntryFields),
    fate ≠ .rollbackRaised → call.run fate store = .ok ⟨⟩ next → entry ∈ call.listed →
    next.table.get? entry.indigoDeviceId = some entry →
    ∃ again, AllowList.load validator next.prefs = .ok again ∧
      again.table.get? entry.indigoDeviceId = some entry

/-- One accepted entry that no load takes as it is refutes it. -/
theorem not_acceptedSurvive {validator : Option EntryValidator} {entry : EntryFields}
    (accepted : entry.check = .ok ()) (changed : ¬Reloadable validator entry) :
    ¬AcceptedSurvive validator := by
  intro survive
  have saved : CommitFate.saved ≠ .rollbackRaised := by decide
  have checked : AllowList.checkOrRaise entry = pure ⟨⟩ := by
    rw [AllowList.checkOrRaise, accepted]
  have returned : (StoreCall.upsert entry).run .saved noExports =
      .ok ⟨⟩ (AllowList.putExports (some (.document (storedDocument (EntryTable.empty.insert entry))))
        { noExports with table := EntryTable.empty.insert entry }) := by
    rw [StoreCall.run, AllowList.upsert, checked]
    rfl
  have listed : entry ∈ (StoreCall.upsert entry).listed := List.mem_singleton_self entry
  have kept : (EntryTable.empty.insert entry).get? entry.indigoDeviceId = some entry := by simp
  obtain ⟨again, loaded, same⟩ := survive noExports _ .saved _ entry saved returned listed kept
  obtain ⟨other, loadedAgain, reloadable⟩ := reload_iff saved returned listed kept
  cases loaded.symm.trans loadedAgain
  exact changed (reloadable.mp same)

/-- The validator of a store whose devices have all become Matter devices. -/
def loopGuard : EntryValidator := fun _ => .ok (some "created by this plugin")

/-- A blank override does not come back, and neither does an entry that only the
validator of a load refuses. -/
theorem accepted_entries_change :
    ¬AcceptedSurvive none ∧ ¬AcceptedSurvive (some loopGuard) := by
  constructor
  · have accepted : blankName.check = .ok () := rfl
    exact not_acceptedSurvive accepted fun reloadable => reloadable.named rfl
  · have accepted : hallLight.check = .ok () := rfl
    refine not_acceptedSurvive accepted fun reloadable => ?_
    cases reloadable.unrejected

end IndigoMatter.Plugin
