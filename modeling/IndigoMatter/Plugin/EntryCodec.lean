import IndigoMatter.Library.PyJson
import IndigoMatter.Plugin.ExportStore

/-!
# The stored form of an export entry

An entry as its class declares it has any text for a role, so the writers can be
handed entries the typed model of the store rules out.  `toDict` is the stored
form and `fromDict` reads one back, checking more than the writers do: a role
nobody knows is refused, and an empty name override is read as none.

The preference holds the text of a document; it stands here for the document, as
what `json.dumps` writes `json.loads` reads back.
-/

namespace IndigoMatter.Plugin

open IndigoMatter.Library
open IndigoMatter.Bridge (Role parsePublishedId)

/-- `ExportEntry`, as declared. -/
structure EntryFields where
  indigoDeviceId : Int
  role : String
  nameOverride : Option String
  options : InsertionMap String PyJson
  publishedAs : Option String

def KEY_VERSION : String := "v"

def KEY_EXPORTS : String := "exports"

def KEY_DEVICE_ID : String := "indigoDeviceId"

def KEY_ROLE : String := "role"

def KEY_NAME_OVERRIDE : String := "nameOverride"

def KEY_OPTIONS : String := "options"

def KEY_PUBLISHED_AS : String := "publishedAs"

/-! ## Checks -/

/-- Why an entry is refused.  An unhashable role is a `TypeError`, which nobody
catches; all the others are a `ValueError`. -/
inductive RowError
  | notAnObject
  | noDeviceId
  | unhashableRole
  | unknownRole (deviceId : Int)
  | notText (key : String) (deviceId : Int)
  | optionsNotAnObject (deviceId : Int)
  | meaningless (key role : String) (deviceId : Int)
  | refused (error : EntryError)
deriving DecidableEq

/-- What a check of an option looks at: of a nested value, only that it is one. -/
def optionView : PyJson → PyValue
  | .null => .none
  | .bool value => .bool value
  | .int value => .int value
  | .float value => .float value
  | .str text => .str text
  | .list _ => .nested "[]"
  | .dict _ => .nested "{}"

/-- The options that are checked. -/
def checkedKeys : List String :=
  [OPTION_INVERT, OPTION_STATE_KEY, OPTION_STATE_INVERT, OPTION_CT_MIN_MIREDS,
    OPTION_CT_MAX_MIREDS, OPTION_CT_LEARNED_MIN_MIREDS, OPTION_CT_LEARNED_MAX_MIREDS]

/-- `_validate_options` for the text of a role.  A role nobody knows is in none of
the tables, so every option that is checked is refused on it. -/
def checkOptions (options : InsertionMap String PyJson) (role : String) (deviceId : Int) :
    Except RowError Unit :=
  match Role.ofName? role with
  | some known =>
      (validateOptions (options.mapValues fun _ => optionView) known deviceId).mapError .refused
  | none =>
      match checkedKeys.find? options.has with
      | some key => .error (.meaningless key role deviceId)
      | none => .ok ()

/-- A published identity has to be a lawful one. -/
def checkPublishedAs (publishedAs : Option String) (deviceId : Int) : Except RowError Unit :=
  match publishedAs with
  | some text =>
      if (parsePublishedId text).isNone then .error (.refused (.unlawfulIdentity text deviceId))
      else .ok ()
  | none => .ok ()

namespace EntryFields

/-- What `upsert` and `replace_all` check of an entry before they write. -/
def check (entry : EntryFields) : Except RowError Unit := do
  checkPublishedAs entry.publishedAs entry.indigoDeviceId
  checkOptions entry.options entry.role entry.indigoDeviceId

/-! ## The stored form -/

/-- `None` or a text. -/
def optionalText : Option String → PyJson
  | some text => .str text
  | none => .null

/-- The fields of the stored form. -/
def storedFields (entry : EntryFields) : List (String × PyJson) :=
  [(KEY_DEVICE_ID, .int entry.indigoDeviceId),
    (KEY_ROLE, .str entry.role),
    (KEY_NAME_OVERRIDE, optionalText entry.nameOverride),
    (KEY_OPTIONS, .dict entry.options.entries),
    (KEY_PUBLISHED_AS, optionalText entry.publishedAs)]

/-- `to_dict`. -/
def toDict (entry : EntryFields) : PyJson := .dict entry.storedFields

/-- `role not in ROLES`; the set asks for the hash of what it looks up. -/
def readRole (fields : List (String × PyJson)) (deviceId : Int) : Except RowError String :=
  match PyJson.field? fields KEY_ROLE with
  | some (.str role) =>
      if (Role.ofName? role).isSome then .ok role else .error (.unknownRole deviceId)
  | some (.list _) | some (.dict _) => .error .unhashableRole
  | _ => .error (.unknownRole deviceId)

/-- A field that is `None` or a text. -/
def readText (fields : List (String × PyJson)) (key : String) (deviceId : Int) :
    Except RowError (Option String) :=
  match PyJson.field? fields key with
  | none | some .null => .ok none
  | some (.str text) => .ok (some text)
  | some _ => .error (.notText key deviceId)

/-- `raw.get(KEY_OPTIONS) or {}`, which has to be an object. -/
def readOptions (fields : List (String × PyJson)) (deviceId : Int) :
    Except RowError (InsertionMap String PyJson) :=
  match PyJson.field? fields KEY_OPTIONS with
  | none => .ok ∅
  | some value =>
      if !value.truthy then .ok ∅
      else
        match value with
        | .dict options => .ok (.ofList options)
        | _ => .error (.optionsNotAnObject deviceId)

/-- `name_override or None`. -/
def orNone (text : Option String) : Option String := text.filter (· ≠ "")

/-- `from_dict`. -/
def fromDict (raw : PyJson) : Except RowError EntryFields :=
  match raw with
  | .dict fields =>
      match (PyJson.field? fields KEY_DEVICE_ID).bind PyJson.toInt? with
      | some deviceId => do
          let role ← readRole fields deviceId
          let nameOverride ← readText fields KEY_NAME_OVERRIDE deviceId
          let options ← readOptions fields deviceId
          checkOptions options role deviceId
          let publishedAs ← readText fields KEY_PUBLISHED_AS deviceId
          checkPublishedAs publishedAs deviceId
          return ⟨deviceId, role, orNone nameOverride, options, publishedAs⟩
      | none => .error .noDeviceId
  | _ => .error .notAnObject

/-! ## Reading a stored entry back -/

/-- Whether `ROLES` has the role. -/
def RoleKnown (entry : EntryFields) : Prop := (Role.ofName? entry.role).isSome = true

theorem readText_optionalText {fields : List (String × PyJson)} {key : String}
    {text : Option String} (stored : PyJson.field? fields key = some (optionalText text))
    (deviceId : Int) : readText fields key deviceId = .ok text := by
  cases text <;> simp [readText, stored, optionalText]

theorem readOptions_dict {fields : List (String × PyJson)} {options : InsertionMap String PyJson}
    (stored : PyJson.field? fields KEY_OPTIONS = some (.dict options.entries)) (deviceId : Int) :
    readOptions fields deviceId = .ok options := by
  have listed : InsertionMap.ofList options.entries = options :=
    InsertionMap.ext (InsertionMap.entries_ofList options.nodupKeys)
  rw [readOptions, stored]
  cases empty : options.entries with
  | nil =>
      have none : options = ∅ := InsertionMap.ext empty
      simp [PyJson.truthy, none]
  | cons entry rest =>
      rw [empty] at listed
      simp [PyJson.truthy, listed]

/-- The writers accept an entry when both checks do. -/
theorem check_eq_ok_iff (entry : EntryFields) :
    entry.check = .ok () ↔
      checkPublishedAs entry.publishedAs entry.indigoDeviceId = .ok () ∧
        checkOptions entry.options entry.role entry.indigoDeviceId = .ok () := by
  rw [check, bind_eq_ok_iff]
  constructor
  · rintro ⟨_, lawful, valid⟩
    exact ⟨lawful, valid⟩
  · rintro ⟨lawful, valid⟩
    exact ⟨_, lawful, valid⟩

theorem readRole_storedFields (entry : EntryFields) (deviceId : Int) :
    readRole entry.storedFields deviceId =
      if (Role.ofName? entry.role).isSome then .ok entry.role
      else .error (.unknownRole deviceId) :=
  rfl

/-- Reading a stored entry of a known role back comes down to the writers' checks. -/
theorem fromDict_toDict_eq {entry : EntryFields} (known : entry.RoleKnown) :
    fromDict entry.toDict = (do
      checkOptions entry.options entry.role entry.indigoDeviceId
      checkPublishedAs entry.publishedAs entry.indigoDeviceId
      return { entry with nameOverride := orNone entry.nameOverride }) := by
  have deviceId : (PyJson.field? entry.storedFields KEY_DEVICE_ID).bind PyJson.toInt? =
      some entry.indigoDeviceId := rfl
  have role : readRole entry.storedFields entry.indigoDeviceId = .ok entry.role :=
    (readRole_storedFields entry _).trans (if_pos known)
  have nameOverride : readText entry.storedFields KEY_NAME_OVERRIDE entry.indigoDeviceId =
      .ok entry.nameOverride := readText_optionalText rfl _
  have options : readOptions entry.storedFields entry.indigoDeviceId = .ok entry.options :=
    readOptions_dict rfl _
  have publishedAs : readText entry.storedFields KEY_PUBLISHED_AS entry.indigoDeviceId =
      .ok entry.publishedAs := readText_optionalText rfl _
  simp only [toDict, fromDict, deviceId, role, nameOverride, options, publishedAs]
  rfl

/-- A stored entry of a role that is known is read back, an empty override gone. -/
theorem fromDict_toDict {entry : EntryFields} (known : entry.RoleKnown)
    (accepted : entry.check = .ok ()) :
    fromDict entry.toDict = .ok { entry with nameOverride := orNone entry.nameOverride } := by
  obtain ⟨lawful, valid⟩ := (check_eq_ok_iff entry).mp accepted
  simp only [fromDict_toDict_eq known, bind_eq_ok_iff]
  exact ⟨_, valid, _, lawful, rfl⟩

/-- A stored entry of any other role is refused. -/
theorem fromDict_toDict_of_unknown {entry : EntryFields} (unknown : ¬entry.RoleKnown) :
    fromDict entry.toDict = .error (.unknownRole entry.indigoDeviceId) := by
  have deviceId : (PyJson.field? entry.storedFields KEY_DEVICE_ID).bind PyJson.toInt? =
      some entry.indigoDeviceId := rfl
  have role : readRole entry.storedFields entry.indigoDeviceId =
      .error (.unknownRole entry.indigoDeviceId) := by
    exact (readRole_storedFields entry _).trans (if_neg unknown)
  simp only [toDict, fromDict, deviceId, role]
  rfl

theorem checkOptions_ne_unhashable (options : InsertionMap String PyJson) (role : String)
    (deviceId : Int) : checkOptions options role deviceId ≠ .error .unhashableRole := by
  rw [checkOptions]
  split
  · cases validateOptions _ _ _ <;> simp [Except.mapError]
  · split <;> simp

theorem checkPublishedAs_ne_unhashable (publishedAs : Option String) (deviceId : Int) :
    checkPublishedAs publishedAs deviceId ≠ .error .unhashableRole := by
  cases publishedAs with
  | none => simp [checkPublishedAs]
  | some text =>
      rw [checkPublishedAs]
      split <;> simp

/-- The role of a stored entry is a text, so reading it back raises nothing but a
`ValueError`. -/
theorem fromDict_toDict_ne_unhashable (entry : EntryFields) :
    fromDict entry.toDict ≠ .error .unhashableRole := by
  by_cases known : entry.RoleKnown
  · rw [fromDict_toDict_eq known]
    cases valid : checkOptions entry.options entry.role entry.indigoDeviceId with
    | error error =>
        intro raised
        apply checkOptions_ne_unhashable entry.options entry.role entry.indigoDeviceId
        rw [valid]
        simpa [bind, Except.bind] using raised
    | ok value =>
        cases lawful : checkPublishedAs entry.publishedAs entry.indigoDeviceId with
        | error error =>
            intro raised
            apply checkPublishedAs_ne_unhashable entry.publishedAs entry.indigoDeviceId
            rw [lawful]
            simpa [bind, Except.bind] using raised
        | ok value => simp [bind, Except.bind, pure, Except.pure]
  · rw [fromDict_toDict_of_unknown known]
    simp

/-- Whatever a stored entry is read back as is of its device. -/
theorem device_of_fromDict_toDict {entry read : EntryFields}
    (found : fromDict entry.toDict = .ok read) :
    read.indigoDeviceId = entry.indigoDeviceId := by
  by_cases known : entry.RoleKnown
  · simp only [fromDict_toDict_eq known, bind_eq_ok_iff] at found
    obtain ⟨_, _, _, _, same⟩ := found
    cases same
    rfl
  · rw [fromDict_toDict_of_unknown known] at found
    cases found

/-- What is read back is of a known role, passes the writer's checks and has no
empty override. -/
structure Canonical (entry : EntryFields) : Prop where
  known : entry.RoleKnown
  accepted : entry.check = .ok ()
  named : entry.nameOverride ≠ some ""

theorem orNone_ne_empty (text : Option String) : orNone text ≠ some "" := by
  simp [orNone]

theorem orNone_eq_self_iff (text : Option String) : orNone text = text ↔ text ≠ some "" := by
  constructor
  · intro same
    rw [← same]
    exact orNone_ne_empty text
  · intro nonempty
    cases text with
    | none => rfl
    | some text => simpa [orNone] using nonempty

theorem readRole_known {fields : List (String × PyJson)} {deviceId : Int} {role : String}
    (read : readRole fields deviceId = .ok role) : (Role.ofName? role).isSome = true := by
  rw [readRole] at read
  split at read
  · split at read
    · rename_i known
      cases read
      exact known
    · cases read
  · cases read
  · cases read
  · cases read

theorem canonical_of_fromDict {raw : PyJson} {entry : EntryFields}
    (read : fromDict raw = .ok entry) : entry.Canonical := by
  cases raw with
  | dict fields =>
      rw [fromDict] at read
      split at read
      · rename_i deviceId _
        simp only [bind_eq_ok_iff] at read
        obtain ⟨role, roleRead, nameOverride, _, options, _, _, valid, publishedAs, _, _, lawful,
          same⟩ := read
        cases same
        exact ⟨readRole_known roleRead, (check_eq_ok_iff _).mpr ⟨lawful, valid⟩,
          orNone_ne_empty nameOverride⟩
      · cases read
  | _ => cases read

end EntryFields

end IndigoMatter.Plugin
