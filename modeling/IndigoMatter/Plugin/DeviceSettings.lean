import IndigoMatter.Library.Transition
import IndigoMatter.Plugin.DeviceCreation
import IndigoMatter.Plugin.ThreadDiag

/-!
# Writable device settings

The Edit Device dialog offers the settings a device implements, with the bounds the
device or the specification gives.  What the user typed is validated against these
bounds; when the dialog closes, the values that are accepted and differ from the state
are sent, each by a task of its own that writes, reads back and reports.

A write and a read are tried twice each.  A write that fails is still read back, and the
report is a success only by what the read gives.
-/

namespace IndigoMatter.Plugin

open IndigoMatter.Library

namespace DeviceSettings

/-! ## Bounds -/

/-- The values a setting may take. -/
structure Bounds where
  minimum : Int
  maximum : Int
  allowed : Option (List Int) := none

def Bounds.contains (bounds : Bounds) (value : Int) : Bool :=
  match bounds.allowed with
  | some allowed => value ∈ allowed
  | none => bounds.minimum ≤ value && value ≤ bounds.maximum

/-- `limits(cluster, attribute)`; null where there is no answer. -/
abbrev LimitsLookup := Int → Int → PyJson

/-- `FromAttribute`, `StaticRange` or `EnumValues`. -/
inductive BoundsSource
  | fromAttribute (attributeId : Int) (parse : PyJson → Option Bounds)
  | staticRange (minimum maximum : Int)
  | enumValues (values : List (Int × String))

namespace BoundsSource

def isFromAttribute : BoundsSource → Bool
  | fromAttribute _ _ => true
  | _ => false

def resolve (cluster : Int) (limits : LimitsLookup) : BoundsSource → Option Bounds
  | fromAttribute attributeId parse =>
      match limits cluster attributeId with
      | .null => none
      | raw => parse raw
  | staticRange minimum maximum => some { minimum, maximum }
  | enumValues values =>
      match values.map Prod.fst with
      | [] => none
      | first :: rest =>
          some {
            minimum := rest.foldl min first
            maximum := rest.foldl max first
            allowed := some (first :: rest) }

end BoundsSource

/-- `_struct_field`: a field by its index, or else by one of its names. -/
def structField (fields : List (String × PyJson)) (index : Nat) (names : List String) : PyJson :=
  ((toString index :: names).findSome? (PyJson.field? fields)).getD .null

/-- `parse_limits_struct`. -/
def parseLimitsStruct : PyJson → Option Bounds
  | .dict fields =>
      match (structField fields 0 ["min", "holdTimeMin"]).toInt?,
          (structField fields 1 ["max", "holdTimeMax"]).toInt? with
      | some low, some high => if high < low then none else some { minimum := low, maximum := high }
      | _, _ => none
  | _ => none

/-- `parse_level_count`. -/
def parseLevelCount (value : PyJson) : Option Bounds :=
  match value.toInt? with
  | some count => if count < 1 then none else some { minimum := 0, maximum := count - 1 }
  | none => none

/-! ## Settings -/

structure DeviceSetting where
  key : String
  label : String
  cluster : Int
  attributeId : Int
  bounds : BoundsSource
  deviceTypes : List String
  unit : String := ""

def CLUSTER_OCCUPANCY_SENSING : Int := 0x0406

def ATTR_HOLD_TIME : Int := 0x0003

def ATTR_HOLD_TIME_LIMITS : Int := 0x0004

def CLUSTER_BOOLEAN_STATE_CONFIG : Int := 0x0080

def ATTR_CURRENT_SENSITIVITY : Int := 0x0000

def ATTR_SUPPORTED_SENSITIVITY_LEVELS : Int := 0x0001

def CLUSTER_ON_OFF : Int := 0x0006

def ATTR_START_UP_ON_OFF : Int := 0x4003

def SETTINGS : List DeviceSetting :=
  [{ key := "holdTime"
     label := "Presence Hold Time"
     cluster := CLUSTER_OCCUPANCY_SENSING
     attributeId := ATTR_HOLD_TIME
     bounds := .fromAttribute ATTR_HOLD_TIME_LIMITS parseLimitsStruct
     deviceTypes := ["matterMotionSensor"]
     unit := " seconds" },
    { key := "sensitivityLevel"
      label := "Sensitivity"
      cluster := CLUSTER_BOOLEAN_STATE_CONFIG
      attributeId := ATTR_CURRENT_SENSITIVITY
      bounds := .fromAttribute ATTR_SUPPORTED_SENSITIVITY_LEVELS parseLevelCount
      deviceTypes := ["matterMotionSensor", "matterContactSensor"] },
    { key := "startUpOnOff"
      label := "After a power cut"
      cluster := CLUSTER_ON_OFF
      attributeId := ATTR_START_UP_ON_OFF
      bounds := .enumValues [(0, "Off"), (1, "On"), (2, "Toggle (opposite of before)")]
      deviceTypes := ["matterRelay"] }]

/-- `settings_for_type`. -/
def settingsForType (deviceTypeId : String) : List DeviceSetting :=
  SETTINGS.filter fun setting => deviceTypeId ∈ setting.deviceTypes

/-- `coerce_value`: the value a text stands for, or the reason it is refused. -/
def coerceValue (setting : DeviceSetting) (raw : String) (bounds : Bounds) : Except String Int :=
  let text := pyStrip raw.toList
  if text = [] then .error s!"Enter a value for {setting.label}."
  else
    match pyInt? text with
    | none => .error s!"{setting.label} must be a whole number."
    | some value =>
        if bounds.contains value then .ok value
        else
          .error s!"{setting.label} must be between {bounds.minimum} and {bounds.maximum}{setting.unit}."

/-! ## The dialog -/

/-- What the dialog works on: the text of every field that has a value, the states of the
device, and what is cached about it. -/
structure Dialog where
  deviceTypeId : String
  values : List (String × String)
  states : List (String × PyJson)
  limits : LimitsLookup
  attributeList : Int → Option PyJson
  deviceKnown : Bool

structure OfferedSetting where
  setting : DeviceSetting
  bounds : Bounds

structure PlannedWrite where
  setting : DeviceSetting
  value : Int
  previous : Option Int

namespace Dialog

/-- A setting with its bounds, or the reason it is not offered. -/
def offer (dialog : Dialog) (setting : DeviceSetting) : Except String OfferedSetting :=
  if !dialog.deviceKnown then .error "the device has no Matter node yet"
  else
    match implements? (dialog.attributeList setting.cluster) setting.attributeId with
    | some false =>
        .error ("the device's AttributeList says it does not implement attribute 0x" ++
          hexText 4 setting.attributeId)
    | known =>
        if known = none ∧ setting.bounds.isFromAttribute = false then
          .error ("the device has not reported an AttributeList for cluster 0x" ++
            hexText 4 setting.cluster ++ ", so there is no evidence it implements this")
        else
          match setting.bounds.resolve setting.cluster dialog.limits with
          | none =>
              .error ("its permitted values could not be determined " ++
                "(limits attribute missing or unreadable)")
          | some bounds => .ok ⟨setting, bounds⟩

/-- `offered_settings`. -/
def offeredSettings (dialog : Dialog) : List OfferedSetting :=
  (settingsForType dialog.deviceTypeId).filterMap fun setting => (dialog.offer setting).toOption

/-- `_is_editing`. -/
def isEditing (dialog : Dialog) (setting : DeviceSetting) : Bool :=
  match dialog.values.lookup setting.key with
  | none => false
  | some text => pyStrip text.toList ≠ []

/-- `coerce_value` of what the user typed. -/
def coerced (dialog : Dialog) (offered : OfferedSetting) : Except String Int :=
  coerceValue offered.setting ((dialog.values.lookup offered.setting.key).getD "") offered.bounds

/-- `validate_settings`. -/
def validateSettings (dialog : Dialog) : List (String × String) :=
  dialog.offeredSettings.filterMap fun offered =>
    if dialog.isEditing offered.setting then
      match dialog.coerced offered with
      | .error reason => some (offered.setting.key, reason)
      | .ok _ => none
    else none

/-- The current value of a setting, as an integer. -/
def current (dialog : Dialog) (setting : DeviceSetting) : Option Int :=
  ((dialog.states.lookup setting.key).getD .null).toInt?

/-- `planned_writes`. -/
def plannedWrites (dialog : Dialog) : List PlannedWrite :=
  dialog.offeredSettings.filterMap fun offered =>
    if dialog.isEditing offered.setting then
      match dialog.coerced offered with
      | .error _ => none
      | .ok value =>
          let previous := dialog.current offered.setting
          if previous = some value then none else some ⟨offered.setting, value, previous⟩
    else none

end Dialog

/-! ## Applying a setting -/

/-- How a write or a read of a task ended. -/
inductive Response
  | wrote
  | writeFailed (error : String)
  | answered (value : PyJson)
  | readFailed (error : String)

/-- Where a task is: at the first or second attempt of its write or its read, or done, with
its report and what the device was observed to hold. -/
inductive Stage
  | writing (retried : Bool)
  | reading (retried : Bool) (sendError : Option String)
  | done (ok : Bool) (message : String) (observed : Option (Option Int))

section Apply

-- Python's `repr`, which only messages use.
variable (repr : PyJson → String)

/-- `verify_write`; `none` is a read that was not answered. -/
def verifyWrite (setting : DeviceSetting) (intended : Int) : Option PyJson → Except String Unit
  | none =>
      .error (setting.label ++ " could not be confirmed — the device did not answer the " ++
        "read-back. The setting may or may not have been applied.")
  | some .null =>
      .error (setting.label ++ " was NOT applied — the device answered the read-back with no " ++
        "value (null) after being asked for " ++ toString intended ++ setting.unit ++ ".")
  | some readBack =>
      match readBack.toInt? with
      | none =>
          .error (setting.label ++ " could not be confirmed — the device answered the " ++
            "read-back with " ++ repr readBack ++ ", which is not a value.")
      | some actual =>
          if actual = intended then .ok ()
          else
            .error (setting.label ++ " was NOT applied — the device still reports " ++
              toString actual ++ setting.unit ++ " after being asked for " ++
              toString intended ++ setting.unit ++
              ". Some firmware acknowledges a write and ignores it.")

/-- What `on_observed` is told. -/
def observed : Option PyJson → Option (Option Int)
  | none => none
  | some .null => some none
  | some readBack => readBack.toInt?.map some

/-- The report of `apply_setting`. -/
def report (plan : PlannedWrite) (sendError : Option String) (readBack : Option PyJson)
    (readError : Option String) : Stage :=
  let now := plan.setting.label ++ " is now " ++ toString plan.value ++ plan.setting.unit
  match verifyWrite repr plan.setting plan.value readBack, sendError with
  | .ok _, none => .done true (now ++ ".") (observed readBack)
  | .ok _, some error =>
      .done true (now ++ " (the send reported an error — " ++ error ++
        " — but the device holds the new value).") (observed readBack)
  | .error reason, sendError =>
      let sent := match sendError with
        | none => reason
        | some error => reason ++ " The send also failed: " ++ error ++ "."
      let read := match readError with
        | none => sent
        | some error => sent ++ " (read-back failed: " ++ error ++ ")"
      .done false read (observed readBack)

/-- One step of `apply_setting`. -/
def taskStep (plan : PlannedWrite) : Stage → Response → Option Stage
  | .writing _, .wrote => some (.reading false none)
  | .writing false, .writeFailed _ => some (.writing true)
  | .writing true, .writeFailed error => some (.reading false (some error))
  | .reading _ sendError, .answered value => some (report repr plan sendError (some value) none)
  | .reading false sendError, .readFailed _ => some (.reading true sendError)
  | .reading true sendError, .readFailed error =>
      some (report repr plan sendError none (some error))
  | _, _ => none

/-- The task of each planned write. -/
abbrev Tasks := List (PlannedWrite × Stage)

/-- The tasks of a dialog that closes. -/
def started (dialog : Dialog) : Tasks := dialog.plannedWrites.map fun plan => (plan, .writing false)

/-- A response to one of the tasks. -/
def step : LabelledStep Tasks (Nat × Response)
  | tasks, (index, response) =>
      match tasks[index]? with
      | some (plan, stage) =>
          (taskStep repr plan stage response).map fun next => tasks.set index (plan, next)
      | none => none

/-! ## What is claimed -/

/-- The responses to one task, in their order. -/
def own (index : Nat) (events : List (Nat × Response)) : List Response :=
  events.filterMap fun event => if event.1 = index then some event.2 else none

def Response.isSend : Response → Bool
  | .wrote | .writeFailed _ => true
  | _ => false

/-- The setting is offered and edited, the text stands for the value, and validation has no
message for it. -/
def Accepts (dialog : Dialog) (setting : DeviceSetting) (value : Int) : Prop :=
  (∃ offered ∈ dialog.offeredSettings, offered.setting = setting) ∧
    dialog.isEditing setting = true ∧
    pyInt? (pyStrip ((dialog.values.lookup setting.key).getD "").toList) = some value ∧
    setting.key ∉ dialog.validateSettings.map Prod.fst

/-- A value is sent exactly when validation accepts it and the state is not the value. -/
def SendsChanged (agrees : PyJson → Int → Prop) (dialog : Dialog) : Prop :=
  ∀ setting value, (∃ previous, ⟨setting, value, previous⟩ ∈ dialog.plannedWrites) ↔
    Accepts dialog setting value ∧
      ¬agrees ((dialog.states.lookup setting.key).getD .null) value

/-- A task reports success exactly when a read after its write has returned the value. -/
def ReportsRead (agrees : PyJson → Int → Prop) (events : List (Nat × Response)) (final : Tasks) :
    Prop :=
  ∀ (index : Nat) plan ok message observed,
    final[index]? = some (plan, .done ok message observed) →
      (ok = true ↔ ∃ earlier value later, own index events = earlier ++ .answered value :: later ∧
        (∃ response ∈ earlier, response.isSend = true) ∧ agrees value plan.value)

/-- What a task has reported depends on its own write and on the responses to it alone. -/
def Separate (dialog : Dialog) (events : List (Nat × Response)) (final : Tasks) : Prop :=
  ∀ other events' final', Run (step repr) (started other) events' final' →
    ∀ index : Nat, other.plannedWrites[index]? = dialog.plannedWrites[index]? →
      own index events' = own index events → final'[index]? = final[index]?

/-- The value is the integer, as a number. -/
def SameValue : PyJson → Int → Prop
  | .bool value, n => (if value then 1 else 0) = n
  | .int value, n => value = n
  | .float value, n => value = n
  | _, _ => False

/-- `int` makes the integer of the value. -/
def ReadsAs (value : PyJson) (n : Int) : Prop := value.toInt? = some n

/-! ## Validation and planning -/

theorem key_injective {first second : DeviceSetting} (isFirst : first ∈ SETTINGS)
    (isSecond : second ∈ SETTINGS) (same : first.key = second.key) : first = second :=
  List.inj_on_of_nodup_map (by decide : (SETTINGS.map DeviceSetting.key).Nodup) isFirst isSecond same

variable {dialog : Dialog}

theorem mem_offeredSettings_iff {offered : OfferedSetting} :
    offered ∈ dialog.offeredSettings ↔
      ∃ setting ∈ settingsForType dialog.deviceTypeId, dialog.offer setting = .ok offered := by
  rw [Dialog.offeredSettings, List.mem_filterMap]
  constructor
  · rintro ⟨setting, mem, isOffered⟩
    refine ⟨setting, mem, ?_⟩
    cases result : dialog.offer setting with
    | error reason => simp [result, Except.toOption] at isOffered
    | ok other =>
        rw [result] at isOffered
        rw [Option.some.inj isOffered]
  · rintro ⟨setting, mem, isOffered⟩
    exact ⟨setting, mem, by rw [isOffered]; rfl⟩

theorem setting_of_offer {setting : DeviceSetting} {offered : OfferedSetting}
    (isOffered : dialog.offer setting = .ok offered) : offered.setting = setting := by
  unfold Dialog.offer at isOffered
  split at isOffered
  · cases isOffered
  · split at isOffered
    · cases isOffered
    · split at isOffered
      · cases isOffered
      · split at isOffered
        · cases isOffered
        · rw [← Except.ok.inj isOffered]

/-- What is offered under one key is one setting with one range. -/
theorem offered_unique {first second : OfferedSetting} (isFirst : first ∈ dialog.offeredSettings)
    (isSecond : second ∈ dialog.offeredSettings) (same : first.setting.key = second.setting.key) :
    first = second := by
  rcases mem_offeredSettings_iff.mp isFirst with ⟨setting, mem, offers⟩
  rcases mem_offeredSettings_iff.mp isSecond with ⟨other, mem', offers'⟩
  rw [setting_of_offer offers, setting_of_offer offers'] at same
  obtain rfl := key_injective (List.mem_of_mem_filter mem) (List.mem_of_mem_filter mem') same
  exact Except.ok.inj (offers.symm.trans offers')

theorem pyInt?_of_coerceValue {setting : DeviceSetting} {raw : String} {bounds : Bounds}
    {value : Int} (coerced : coerceValue setting raw bounds = .ok value) :
    pyInt? (pyStrip raw.toList) = some value := by
  unfold coerceValue at coerced
  dsimp only at coerced
  split at coerced
  · cases coerced
  · split at coerced
    · cases coerced
    · rename_i found
      split at coerced
      · rw [← Except.ok.inj coerced]
        exact found
      · cases coerced

theorem mem_validateSettings_iff {key : String} :
    key ∈ dialog.validateSettings.map Prod.fst ↔
      ∃ offered ∈ dialog.offeredSettings, dialog.isEditing offered.setting = true ∧
        (∃ reason, dialog.coerced offered = .error reason) ∧ offered.setting.key = key := by
  simp only [Dialog.validateSettings, List.mem_map, List.mem_filterMap]
  constructor
  · rintro ⟨⟨_, reason⟩, ⟨offered, mem, isMessage⟩, rfl⟩
    split at isMessage
    · rename_i editing
      split at isMessage
      · rename_i why refused
        cases isMessage
        exact ⟨offered, mem, editing, ⟨_, refused⟩, rfl⟩
      · cases isMessage
    · cases isMessage
  · rintro ⟨offered, mem, editing, ⟨reason, refused⟩, rfl⟩
    exact ⟨(offered.setting.key, reason), ⟨offered, mem, by simp [editing, refused]⟩, rfl⟩

theorem mem_plannedWrites_iff {setting : DeviceSetting} {value : Int} {previous : Option Int} :
    (⟨setting, value, previous⟩ : PlannedWrite) ∈ dialog.plannedWrites ↔
      ∃ offered ∈ dialog.offeredSettings, offered.setting = setting ∧
        dialog.isEditing setting = true ∧ dialog.coerced offered = .ok value ∧
          previous = dialog.current setting ∧ previous ≠ some value := by
  simp only [Dialog.plannedWrites, List.mem_filterMap]
  constructor
  · rintro ⟨offered, mem, planned⟩
    split at planned
    · rename_i editing
      split at planned
      · cases planned
      · rename_i accepted
        split at planned
        · cases planned
        · rename_i changed
          cases planned
          exact ⟨offered, mem, rfl, editing, accepted, rfl, changed⟩
    · cases planned
  · rintro ⟨offered, mem, rfl, editing, accepted, rfl, changed⟩
    exact ⟨offered, mem, by simp [editing, accepted, changed]⟩

/-- The two filters agree. -/
theorem sendsChanged (dialog : Dialog) : SendsChanged ReadsAs dialog := by
  intro setting value
  simp only [mem_plannedWrites_iff]
  constructor
  · rintro ⟨_, offered, mem, rfl, editing, accepted, rfl, changed⟩
    refine ⟨⟨⟨offered, mem, rfl⟩, editing, pyInt?_of_coerceValue accepted, fun refused => ?_⟩,
      changed⟩
    rcases mem_validateSettings_iff.mp refused with ⟨other, mem', _, ⟨reason, isError⟩, same⟩
    rw [offered_unique mem' mem same, accepted] at isError
    cases isError
  · rintro ⟨⟨⟨offered, mem, rfl⟩, editing, typed, unrefused⟩, changed⟩
    cases result : dialog.coerced offered with
    | error reason =>
        exact absurd (mem_validateSettings_iff.mpr ⟨offered, mem, editing, ⟨reason, result⟩, rfl⟩)
          unrefused
    | ok found =>
        obtain rfl : found = value :=
          Option.some.inj ((pyInt?_of_coerceValue result).symm.trans typed)
        exact ⟨_, offered, mem, rfl, editing, result, rfl, changed⟩

/-! ## One task -/

/-- A task alone. -/
def runTask (plan : PlannedWrite) (responses : List Response) : Option Stage :=
  responses.foldlM (taskStep repr plan) (.writing false)

variable {repr} {plan : PlannedWrite}

theorem runTask_append (responses : List Response) (response : Response) :
    runTask repr plan (responses ++ [response]) =
      (runTask repr plan responses).bind fun stage => taskStep repr plan stage response := by
  simp [runTask, List.foldlM_append]

def Unanswered (responses : List Response) : Prop :=
  ∀ value, Response.answered value ∉ responses

def Sent (responses : List Response) : Prop := ∃ response ∈ responses, response.isSend = true

/-- What the responses say about the stage that they lead to. -/
def Explained (plan : PlannedWrite) (responses : List Response) : Stage → Prop
  | .writing _ => Unanswered responses
  | .reading _ _ => Unanswered responses ∧ Sent responses
  | .done ok _ _ =>
      (∃ earlier value, responses = earlier ++ [.answered value] ∧ Unanswered earlier ∧
        Sent earlier ∧ (ok = true ↔ ReadsAs value plan.value)) ∨
      Unanswered responses ∧ ok = false

theorem Unanswered.append {responses : List Response} (unanswered : Unanswered responses)
    {response : Response} (other : ∀ value, response ≠ .answered value) :
    Unanswered (responses ++ [response]) := by
  intro value mem
  rcases List.mem_append.mp mem with old | isNew
  · exact unanswered value old
  · exact other value (List.mem_singleton.mp isNew).symm

theorem Sent.append {responses : List Response} (sent : Sent responses) (response : Response) :
    Sent (responses ++ [response]) := by
  rcases sent with ⟨earlier, mem, isSend⟩
  exact ⟨earlier, List.mem_append_left _ mem, isSend⟩

theorem sent_append (responses : List Response) {response : Response}
    (isSend : response.isSend = true) : Sent (responses ++ [response]) :=
  ⟨response, by simp, isSend⟩

/-- `verify_write` accepts a read exactly when `int` makes it the intended value. -/
theorem verifyWrite_isOk_iff {setting : DeviceSetting} {intended : Int} {value : PyJson} :
    (verifyWrite repr setting intended (some value)).isOk = true ↔ ReadsAs value intended := by
  unfold verifyWrite ReadsAs
  split
  · rename_i isNone
    cases isNone
  · rename_i isNull
    cases isNull
    simp [Except.isOk, Except.toBool, PyJson.toInt?]
  · rename_i isSome
    cases isSome
    split
    · rename_i unread
      simp [unread, Except.isOk, Except.toBool]
    · rename_i actual read
      split
      · rename_i same
        simp [read, same, Except.isOk, Except.toBool]
      · rename_i apart
        simp [read, apart, Except.isOk, Except.toBool]

/-- A report is a success where `verify_write` accepts. -/
theorem report_spec (plan : PlannedWrite) (sendError : Option String) (readBack : Option PyJson)
    (readError : Option String) :
    ∃ message, report repr plan sendError readBack readError =
      .done (verifyWrite repr plan.setting plan.value readBack).isOk message (observed readBack) := by
  unfold report
  cases verifyWrite repr plan.setting plan.value readBack with
  | error reason => exact ⟨_, rfl⟩
  | ok _ =>
      cases sendError with
      | none => exact ⟨_, rfl⟩
      | some error => exact ⟨_, rfl⟩

theorem explained_step {responses : List Response} {response : Response} {stage next : Stage}
    (explained : Explained plan responses stage)
    (taken : taskStep repr plan stage response = some next) :
    Explained plan (responses ++ [response]) next := by
  unfold taskStep at taken
  split at taken
  · rw [← Option.some.inj taken]
    exact ⟨Unanswered.append explained (by rintro _ ⟨⟩), sent_append responses rfl⟩
  · rw [← Option.some.inj taken]
    exact Unanswered.append explained (by rintro _ ⟨⟩)
  · rw [← Option.some.inj taken]
    exact ⟨Unanswered.append explained (by rintro _ ⟨⟩), sent_append responses rfl⟩
  · rename_i sendError value
    rcases @report_spec repr plan sendError (some value) none with ⟨message, same⟩
    rw [← Option.some.inj taken, same]
    exact .inl ⟨responses, value, rfl, explained.1, explained.2, verifyWrite_isOk_iff⟩
  · rw [← Option.some.inj taken]
    exact ⟨explained.1.append (by rintro _ ⟨⟩), explained.2.append _⟩
  · rename_i sendError error
    rcases @report_spec repr plan sendError none (some error) with ⟨message, same⟩
    rw [← Option.some.inj taken, same]
    exact .inr ⟨explained.1.append (by rintro _ ⟨⟩), rfl⟩
  · cases taken

theorem explained_of_runTask {responses : List Response} {stage : Stage}
    (ran : runTask repr plan responses = some stage) : Explained plan responses stage := by
  induction responses using List.reverseRecOn generalizing stage with
  | nil =>
      rw [← Option.some.inj ran]
      rintro _ ⟨⟩
  | append_singleton earlier response ih =>
      rw [runTask_append] at ran
      rcases Option.bind_eq_some_iff.mp ran with ⟨before, reached, taken⟩
      exact explained_step (ih reached) taken

/-- The report of a task that is done. -/
theorem ok_iff_of_runTask {responses : List Response} {ok : Bool} {message : String}
    {seen : Option (Option Int)} (ran : runTask repr plan responses = some (.done ok message seen)) :
    ok = true ↔ ∃ earlier value later, responses = earlier ++ .answered value :: later ∧
      (∃ response ∈ earlier, response.isSend = true) ∧ ReadsAs value plan.value := by
  rcases explained_of_runTask ran with
    ⟨earlier, value, rfl, unanswered, sent, reads⟩ | ⟨unanswered, failed⟩
  · rw [reads]
    constructor
    · exact fun agrees => ⟨earlier, value, [], rfl, sent, agrees⟩
    · rintro ⟨before, other, later, split, _, agrees⟩
      rcases List.eq_nil_or_concat later with rfl | ⟨rest, last, rfl⟩
      · rcases List.append_inj' split rfl with ⟨_, single⟩
        cases single
        exact agrees
      · rw [List.concat_eq_append, ← List.cons_append, ← List.append_assoc] at split
        have within := (List.append_inj' split rfl).1
        exact absurd (by rw [within]; simp) (unanswered other)
  · rw [failed]
    constructor
    · rintro ⟨⟩
    · rintro ⟨before, other, later, split, _, _⟩
      exact absurd (by rw [split]; simp) (unanswered other)

/-! ## All tasks -/

theorem own_append (index : Nat) (events : List (Nat × Response)) (event : Nat × Response) :
    own index (events ++ [event]) =
      own index events ++ if event.1 = index then [event.2] else [] := by
  simp only [own, List.filterMap_append, List.append_cancel_left_eq]
  by_cases same : event.1 = index <;> simp [same]

theorem step_eq_some_iff {tasks next : Tasks} {index : Nat} {response : Response} :
    step repr tasks (index, response) = some next ↔
      ∃ plan stage moved, tasks[index]? = some (plan, stage) ∧
        taskStep repr plan stage response = some moved ∧ next = tasks.set index (plan, moved) := by
  simp only [step]
  constructor
  · intro taken
    split at taken
    · rename_i plan stage isAt
      rcases Option.map_eq_some_iff.mp taken with ⟨moved, moves, rfl⟩
      exact ⟨plan, stage, moved, isAt, moves, rfl⟩
    · cases taken
  · rintro ⟨plan, stage, moved, isAt, moves, rfl⟩
    simp [isAt, moves]

/-- In an interleaved run, each task is where its own responses lead it. -/
theorem task_of_run {events : List (Nat × Response)} {final : Tasks}
    (run : Run (step repr) (started dialog) events final) (index : Nat) :
    final[index]? = dialog.plannedWrites[index]?.bind fun plan =>
      (runTask repr plan (own index events)).map fun stage => (plan, stage) := by
  induction run with
  | nil =>
      rw [started, List.getElem?_map]
      cases dialog.plannedWrites[index]? <;> rfl
  | @snoc earlier middle final event before _ taken ih =>
      rcases event with ⟨stepped, response⟩
      rcases step_eq_some_iff.mp taken with ⟨plan, stage, moved, isAt, moves, rfl⟩
      rw [own_append]
      by_cases same : stepped = index
      · subst same
        have inRange : stepped < middle.length := (List.getElem?_eq_some_iff.mp isAt).1
        rw [isAt] at ih
        rcases Option.bind_eq_some_iff.mp ih.symm with ⟨planned, isPlanned, reached⟩
        rcases Option.map_eq_some_iff.mp reached with ⟨_, ran, ⟨⟩⟩
        rw [List.getElem?_set_self inRange, isPlanned]
        simp [runTask_append, ran, moves]
      · rw [List.getElem?_set_ne same, ih]
        simp [same]

/-- Whatever is edited and cached, and however the writes and reads of the tasks fail and
interleave. -/
theorem settings_reported {events : List (Nat × Response)} {final : Tasks}
    (run : Run (step repr) (started dialog) events final) :
    SendsChanged ReadsAs dialog ∧ ReportsRead ReadsAs events final ∧
      Separate repr dialog events final := by
  refine ⟨sendsChanged dialog, ?_, ?_⟩
  · intro index plan ok message seen isDone
    rw [task_of_run run] at isDone
    rcases Option.bind_eq_some_iff.mp isDone with ⟨planned, _, reached⟩
    rcases Option.map_eq_some_iff.mp reached with ⟨_, ran, ⟨⟩⟩
    exact ok_iff_of_runTask ran
  · intro other events' final' run' index samePlan sameResponses
    rw [task_of_run run, task_of_run run', samePlan, sameResponses]

/-- A relay whose answers after a power cut are to be changed from off to toggle. -/
def powerCut : Dialog where
  deviceTypeId := "matterRelay"
  values := [("startUpOnOff", "2")]
  states := [("startUpOnOff", .int 0)]
  limits := fun _ _ => .null
  attributeList := fun _ => some (.list [.int 0x0000, .int 0x4003])
  deviceKnown := true

/-- The write it is planned to make. -/
def toToggle : PlannedWrite := ⟨SETTINGS.getLast (by decide), 2, some 0⟩

/-- The first write fails, the second is acknowledged, and the read has the answer given. -/
def answeredWith (value : PyJson) : List (Nat × Response) :=
  [(0, .writeFailed "timeout"), (0, .wrote), (0, .answered value)]

end Apply

theorem settings_reported_powerCut :
    ∃ final, Run (step fun _ => "") (started powerCut) (answeredWith (.int 2)) final ∧
      SendsChanged ReadsAs powerCut ∧ ReportsRead ReadsAs (answeredWith (.int 2)) final ∧
        Separate (fun _ => "") powerCut (answeredWith (.int 2)) final := by
  have run : ∃ final, Run (step fun _ => "") (started powerCut) (answeredWith (.int 2)) final :=
    ⟨_, .snoc (.snoc (.snoc .nil trivial rfl) trivial rfl) trivial rfl⟩
  rcases run with ⟨final, reached⟩
  exact ⟨final, reached, settings_reported reached⟩

def twoAndAHalf : Rat := ⟨5, 2, by decide, by decide⟩

/-- An answer between two integers is reported as the lower one. -/
theorem fraction_is_reported_applied :
    ¬∀ (repr : PyJson → String) (dialog : Dialog) (events : List (Nat × Response))
      (final : Tasks), Run (step repr) (started dialog) events final →
        SendsChanged SameValue dialog ∧ ReportsRead SameValue events final ∧
          Separate repr dialog events final := by
  intro claimed
  have run : ∃ final, Run (step fun _ => "") (started powerCut) (answeredWith (.float twoAndAHalf))
      final ∧ ∃ message seen, final[0]? = some (toToggle, .done true message seen) :=
    ⟨_, .snoc (.snoc (.snoc .nil trivial rfl) trivial rfl) trivial rfl, _, _, rfl⟩
  rcases run with ⟨final, reached, message, seen, isDone⟩
  rcases ((claimed _ _ _ _ reached).2.1 0 toToggle true message seen isDone).mp rfl with
    ⟨earlier, value, later, split, _, same⟩
  have isAnswer : Response.answered value ∈ own 0 (answeredWith (.float twoAndAHalf)) := by
    rw [split]
    simp
  obtain rfl : value = .float twoAndAHalf := by
    simpa [own, answeredWith] using isAnswer
  have integral : twoAndAHalf = ((2 : Int) : Rat) := same
  exact absurd integral (by decide)

end DeviceSettings

end IndigoMatter.Plugin
