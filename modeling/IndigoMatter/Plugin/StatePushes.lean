import IndigoMatter.Library.Transition
import IndigoMatter.Plugin.ExportHandlers

/-!
# State pushes of one export

The bridge pushes what has changed since the last push, with a tolerance for some keys, and
keeps a snapshot of what it has pushed.  The tolerance is measured from the snapshot, so it
bounds the whole distance between what the node was told and what the device shows, over
any number of small steps.

`Mirrors` is the invariant: whatever the snapshot holds is the last value sent under its
key, and the colour keys it holds belong to the channel that was sent last.
-/

namespace IndigoMatter.Plugin

open IndigoMatter.Library
open IndigoMatter.Bridge (Role)

/-! ## The bridge -/

/-- What the bridge has pushed of one export: its snapshot, and the state maps it has sent. -/
structure PushState where
  pushed : Option StateMap
  log : List StateMap

/-- Before anything was sent. -/
def PushState.fresh : PushState := ⟨none, []⟩

/-- `dict.update`. -/
def updateStates (snapshot states : StateMap) : StateMap :=
  snapshot.upsertAll Prod.fst (fun _ entry => entry.2) states.entries

/-- A spec is built and sent: it carries every published state and reseeds the snapshot.  A
device that is gone or no longer exportable has none, and loses its snapshot. -/
def PushState.sendSpec (role : Role) (options : Options) (dev : Option DeviceReading)
    (state : PushState) : PushState :=
  match dev with
  | none => { state with pushed := none }
  | some dev =>
      let states := publishedStates role dev options
      ⟨some states, state.log ++ [states]⟩

/-- The snapshot after `_note_pushed`. -/
def notePushed (role : Role) (pushed : Option StateMap) (states : StateMap) : StateMap :=
  let snapshot := updateStates (pushed.getD ∅) states
  let alternating := modeAlternatingKeys role
  if states.keys.any (· ∈ alternating) then
    snapshot.filterKeys fun key => key ∉ alternating || key ∈ states.keys
  else snapshot

/-- `set_state` with a map that is not empty, and the note of it. -/
def PushState.push (role : Role) (states : StateMap) (state : PushState) : PushState :=
  if states.keys = [] then state
  else ⟨some (notePushed role state.pushed states), state.log ++ [states]⟩

/-- What happens to an export while its client is attached.  A spec and an update read the
device afresh where they build a spec. -/
inductive PushEvent
  | spec (options : Options) (dev : Option DeviceReading)
  | updated (options : Options) (nameOverride : Option String) (origDev newDev : DeviceReading)
      (current : Option DeviceReading)
  | commanded (command : String) (args : InsertionMap String PyValue)
  | corrected (options : Options) (dev : DeviceReading)

/-- A device that starts reporting a battery is created again. -/
def gainsBattery (origDev newDev : DeviceReading) : Bool :=
  newDev.batteryLevel ≠ .none && origDev.batteryLevel = .none

/-- `device_updated`, of a client that is attached. -/
def PushState.deviceUpdated (role : Role) (options : Options) (nameOverride : Option String)
    (origDev newDev : DeviceReading) (current : Option DeviceReading) (state : PushState) :
    PushState :=
  if gainsBattery origDev newDev then state.sendSpec role options current
  else
    let named :=
      if nameOverride = none ∧ origDev.name ≠ newDev.name then state.sendSpec role options current
      else state
    named.push role (diffFrom role named.pushed newDev options).changed

/-- One event. -/
def PushState.step (role : Role) : LabelledStep PushState PushEvent := fun state event =>
  match event with
  | .spec options dev => some (state.sendSpec role options dev)
  | .updated options nameOverride origDev newDev current =>
      some (state.deviceUpdated role options nameOverride origDev newDev current)
  | .commanded command args => some (state.push role (commandedStates role command args))
  | .corrected options dev => some (state.push role (statesOf (statesFor dev options role)))

/-! ## What was sent -/

/-- The last value sent under a key. -/
def lastSent (log : List StateMap) (key : String) : Option PyValue :=
  log.foldl (fun sent states => (states.get? key).or sent) none

/-- The colour channel that was sent last. -/
def lastChannel (log : List StateMap) : Option ColorChannel :=
  log.foldl (fun sent states => (channelOfMap states).or sent) none

@[simp]
theorem lastSent_append (log : List StateMap) (states : StateMap) (key : String) :
    lastSent (log ++ [states]) key = (states.get? key).or (lastSent log key) := by
  rw [lastSent, List.foldl_append]
  rfl

@[simp]
theorem lastChannel_append (log : List StateMap) (states : StateMap) :
    lastChannel (log ++ [states]) = (channelOfMap states).or (lastChannel log) := by
  rw [lastChannel, List.foldl_append]
  rfl

theorem get?_updateStates (snapshot states : StateMap) (key : String) :
    (updateStates snapshot states).get? key = (states.get? key).or (snapshot.get? key) := by
  cases stored : states.get? key with
  | none =>
      have absent : key ∉ states.entries.map Prod.fst := InsertionMap.get?_eq_none_iff.mp stored
      rw [updateStates, InsertionMap.get?_upsertAll_of_notMem absent, Option.none_or]
  | some value =>
      have listed : (key, value) ∈ states.entries := InsertionMap.mem_entries_iff.mpr stored
      exact InsertionMap.get?_upsertAll_of_mem states.nodupKeys listed snapshot

/-! ## State maps of a role -/

/-- A state map that a role can send: it shows one colour channel, and only a colour light
shows a hue. -/
structure Sendable (role : Role) (states : StateMap) (channel : ColorChannel) : Prop where
  only : OnlyChannel channel states.keys
  plain : role ≠ .extendedColorLight → channel = .temperature

theorem Sendable.mono {role : Role} {states fewer : StateMap} {channel : ColorChannel}
    (sendable : Sendable role states channel) (within : fewer.keys ⊆ states.keys) :
    Sendable role fewer channel where
  only := fun key mem => sendable.only key (within mem)
  plain := sendable.plain

theorem plain_publishedChannel {role : Role} (dev : DeviceReading)
    (plain : role ≠ .extendedColorLight) : publishedChannel dev role = .temperature := by
  cases role <;> first | rfl | exact absurd rfl plain

theorem sendable_published (role : Role) (dev : DeviceReading) (options : Options) :
    Sendable role (publishedStates role dev options) (publishedChannel dev role) where
  only := onlyChannel_publishedStates role dev options
  plain := plain_publishedChannel dev

theorem sendable_statesFor (role : Role) (dev : DeviceReading) (options : Options) :
    Sendable role (statesOf (statesFor dev options role)) (publishedChannel dev role) where
  only := by
    intro key mem
    apply onlyChannel_roleKeys role dev key
    exact List.mem_cons_of_mem _ (statesFor_keys role dev options (mem_keys_statesOf mem))
  plain := plain_publishedChannel dev

theorem commandedStates_keys (role : Role) (command : String)
    (args : InsertionMap String PyValue) :
    (commandedStates role command args).keys ⊆ [STATE_COLOR_TEMP_MIREDS] := by
  have empty : (∅ : StateMap).keys ⊆ [STATE_COLOR_TEMP_MIREDS] := List.nil_subset _
  unfold commandedStates
  split
  · split
    · split
      · exact empty
      · split
        · exact empty
        · intro key mem
          rw [InsertionMap.mem_keys_ofList] at mem
          exact mem
    · exact empty
  · exact empty

theorem sendable_commanded (role : Role) (command : String)
    (args : InsertionMap String PyValue) :
    Sendable role (commandedStates role command args) .temperature where
  only := by
    intro key mem
    have known : OnlyChannel .temperature [STATE_COLOR_TEMP_MIREDS] := by decide
    exact known key (commandedStates_keys role command args mem)
  plain := fun _ => rfl

theorem changed_keys (role : Role) (pushed : Option StateMap) (dev : DeviceReading)
    (options : Options) :
    (diffFrom role pushed dev options).changed.keys ⊆ (publishedStates role dev options).keys := by
  intro key mem
  rcases InsertionMap.mem_keys_iff.mp mem with ⟨value, stored⟩
  rw [diffFrom, InsertionMap.get?_filterKeys] at stored
  split at stored
  · exact InsertionMap.mem_keys_iff.mpr ⟨value, stored⟩
  · cases stored

theorem sendable_changed (role : Role) (pushed : Option StateMap) (dev : DeviceReading)
    (options : Options) :
    Sendable role (diffFrom role pushed dev options).changed (publishedChannel dev role) :=
  (sendable_published role dev options).mono (changed_keys role pushed dev options)

/-- A key of a channel makes it the channel of the map. -/
theorem Sendable.channelOfMap {role : Role} {states : StateMap} {channel other : ColorChannel}
    (sendable : Sendable role states channel) {key : String} (mem : key ∈ states.keys)
    (isOther : channelOf key = some other) : channelOfMap states = some other :=
  singleChannel_of_only sendable.only key mem other isOther

/-- The alternating keys of a colour light are the colour keys. -/
theorem mem_modeAlternatingKeys {key : String} {channel : ColorChannel}
    (isChannel : channelOf key = some channel) :
    key ∈ modeAlternatingKeys .extendedColorLight := by
  unfold channelOf at isChannel
  split at isChannel
  · rename_i temperature
    simp [modeAlternatingKeys, temperature]
  · split at isChannel
    · rename_i colour
      rcases colour with hue | saturation
      · simp [modeAlternatingKeys, hue]
      · simp [modeAlternatingKeys, saturation]
    · cases isChannel

/-! ## The invariant -/

/-- The snapshot mirrors what was sent. -/
structure Mirrors (role : Role) (snapshot : StateMap) (log : List StateMap) : Prop where
  sent : ∀ key value, snapshot.get? key = some value → lastSent log key = some value
  channel : ∀ key ∈ snapshot.keys, ∀ channel, channelOf key = some channel →
    lastChannel log = some channel
  plain : role ≠ .extendedColorLight → OnlyChannel .temperature snapshot.keys

theorem mirrors_empty (role : Role) (log : List StateMap) : Mirrors role ∅ log := by
  refine ⟨?_, ?_, ?_⟩
  · intro key value stored
    rw [InsertionMap.get?_empty] at stored
    cases stored
  · intro key mem
    cases mem
  · intro _ key mem
    cases mem

/-- A spec reseeds the snapshot with what it carries. -/
theorem mirrors_spec {role : Role} {states : StateMap} {channel : ColorChannel}
    (sendable : Sendable role states channel) (log : List StateMap) :
    Mirrors role states (log ++ [states]) := by
  refine ⟨?_, ?_, ?_⟩
  · intro key value stored
    rw [lastSent_append, stored]
    rfl
  · intro key mem other isOther
    rw [lastChannel_append, sendable.channelOfMap mem isOther]
    rfl
  · intro plain
    rw [← sendable.plain plain]
    exact sendable.only

theorem get?_notePushed {role : Role} {pushed : Option StateMap} {states : StateMap}
    {key : String} {value : PyValue}
    (stored : (notePushed role pushed states).get? key = some value) :
    states.get? key = some value ∨
      states.get? key = none ∧ (pushed.getD ∅).get? key = some value ∧
        (states.keys.any (· ∈ modeAlternatingKeys role) = true →
          key ∉ modeAlternatingKeys role) := by
  unfold notePushed at stored
  dsimp only at stored
  split at stored
  · rw [InsertionMap.get?_filterKeys] at stored
    split at stored
    · rename_i kept
      rw [get?_updateStates] at stored
      cases current : states.get? key with
      | some new =>
          rw [current] at stored
          exact Or.inl stored
      | none =>
          rw [current, Option.none_or] at stored
          have absent : key ∉ states.keys := InsertionMap.get?_eq_none_iff.mp current
          refine Or.inr ⟨rfl, stored, fun _ => ?_⟩
          simpa [absent] using kept
    · cases stored
  · rename_i quiet
    rw [get?_updateStates] at stored
    cases current : states.get? key with
    | some new =>
        rw [current] at stored
        exact Or.inl stored
    | none =>
        rw [current, Option.none_or] at stored
        exact Or.inr ⟨rfl, stored, fun loud => absurd loud quiet⟩

/-- A map with a channel has a key of it. -/
theorem exists_key_of_channelOfMap {states : StateMap} {channel : ColorChannel}
    (shown : channelOfMap states = some channel) :
    ∃ key ∈ states.keys, channelOf key = some channel :=
  List.exists_of_findSome?_eq_some shown

/-- A push is noted without losing the mirror. -/
theorem mirrors_push {role : Role} {pushed : Option StateMap} {log : List StateMap}
    {states : StateMap} {channel : ColorChannel} (mirrors : Mirrors role (pushed.getD ∅) log)
    (sendable : Sendable role states channel) :
    Mirrors role (notePushed role pushed states) (log ++ [states]) := by
  refine ⟨?_, ?_, ?_⟩
  · intro key value stored
    rw [lastSent_append]
    rcases get?_notePushed stored with current | ⟨absent, earlier, -⟩
    · rw [current]
      rfl
    · rw [absent, Option.none_or]
      exact mirrors.sent key value earlier
  · intro key mem other isOther
    rcases InsertionMap.mem_keys_iff.mp mem with ⟨value, stored⟩
    rw [lastChannel_append]
    rcases get?_notePushed stored with current | ⟨-, earlier, evicted⟩
    · have present : key ∈ states.keys := InsertionMap.mem_keys_iff.mpr ⟨value, current⟩
      rw [sendable.channelOfMap present isOther]
      rfl
    · have held : key ∈ (pushed.getD ∅).keys := InsertionMap.mem_keys_iff.mpr ⟨value, earlier⟩
      have last : lastChannel log = some other := mirrors.channel key held other isOther
      cases shown : channelOfMap states with
      | none => rw [Option.none_or, last]
      | some new =>
          rcases exists_key_of_channelOfMap shown with ⟨newKey, newMem, isNew⟩
          by_cases colour : role = .extendedColorLight
          · -- the push carries a colour key, so the other ones are evicted
            rw [colour] at evicted
            have loud : states.keys.any (· ∈ modeAlternatingKeys .extendedColorLight) = true :=
              List.any_eq_true.mpr ⟨newKey, newMem, decide_eq_true (mem_modeAlternatingKeys isNew)⟩
            exact absurd (mem_modeAlternatingKeys isOther) (evicted loud)
          · have temperature : other = .temperature :=
              mirrors.plain colour key held other isOther
            have temperature' : new = channel := sendable.only newKey newMem new isNew
            rw [temperature, temperature', sendable.plain colour]
            rfl
  · intro plain key mem
    rcases InsertionMap.mem_keys_iff.mp mem with ⟨value, stored⟩
    rcases get?_notePushed stored with current | ⟨-, earlier, -⟩
    · rw [← sendable.plain plain]
      exact sendable.only key (InsertionMap.mem_keys_iff.mpr ⟨value, current⟩)
    · exact mirrors.plain plain key (InsertionMap.mem_keys_iff.mpr ⟨value, earlier⟩)

/-- The snapshot of a bridge mirrors what it has sent. -/
def PushState.Sound (role : Role) (state : PushState) : Prop :=
  Mirrors role (state.pushed.getD ∅) state.log

theorem sound_sendSpec {role : Role} {state : PushState} (options : Options)
    (dev : Option DeviceReading) : (state.sendSpec role options dev).Sound role := by
  cases dev with
  | none => exact mirrors_empty role state.log
  | some dev => exact mirrors_spec (sendable_published role dev options) state.log

theorem sound_push {role : Role} {state : PushState} {states : StateMap} {channel : ColorChannel}
    (sound : state.Sound role) (sendable : Sendable role states channel) :
    (state.push role states).Sound role := by
  unfold PushState.push
  split
  · exact sound
  · exact mirrors_push sound sendable

theorem sound_deviceUpdated {role : Role} {state : PushState} (sound : state.Sound role)
    (options : Options) (nameOverride : Option String) (origDev newDev : DeviceReading)
    (current : Option DeviceReading) :
    (state.deviceUpdated role options nameOverride origDev newDev current).Sound role := by
  unfold PushState.deviceUpdated
  split
  · exact sound_sendSpec options current
  · apply sound_push _ (sendable_changed role _ newDev options)
    split
    · exact sound_sendSpec options current
    · exact sound

theorem sound_of_run {role : Role} {events : List PushEvent} {final : PushState}
    (run : Run (PushState.step role) PushState.fresh events final) : final.Sound role := by
  have initially : PushState.fresh.Sound role := mirrors_empty role []
  refine run.invariant initially ?_
  rintro state event next sound - taken
  cases event with
  | spec options dev =>
      obtain rfl := Option.some.inj taken
      exact sound_sendSpec options dev
  | updated options nameOverride origDev newDev current =>
      obtain rfl := Option.some.inj taken
      exact sound_deviceUpdated sound options nameOverride origDev newDev current
  | commanded command args =>
      obtain rfl := Option.some.inj taken
      exact sound_push sound (sendable_commanded role command args)
  | corrected options dev =>
      obtain rfl := Option.some.inj taken
      exact sound_push sound (sendable_statesFor role dev options)

/-! ## What an update leaves -/

/-- A value that was sent is as near to a reading as the tolerance of its key asks. -/
def WithinTolerance (role : Role) (key : String) (sent value : PyValue) : Prop :=
  sent.equals value = true ∨
    ∃ tolerance first second, (tolerances role).lookup key = some tolerance ∧
      sent.number? = some first ∧ value.number? = some second ∧ |second - first| ≤ tolerance

theorem withinTolerance_of_not_changed {role : Role} {key : String} {sent value : PyValue}
    (unchanged : changedFrom role key (some sent) value = false) :
    WithinTolerance role key sent value := by
  simp only [changedFrom] at unchanged
  split at unchanged
  · rename_i tolerance first second isTolerance isFirst isSecond
    exact Or.inr ⟨tolerance, first, second, isTolerance, isFirst, isSecond,
      not_lt.mp (of_decide_eq_false unchanged)⟩
  · exact Or.inl (by simpa using unchanged)

section Pushes

variable {role : Role} {state : PushState} {options : Options} {dev : DeviceReading}
  {key : String} {value : PyValue}

theorem push_log (role : Role) (states : StateMap) (state : PushState) :
    (state.push role states).log =
      state.log ++ if states.keys = [] then [] else [states] := by
  unfold PushState.push
  split
  · rw [List.append_nil]
  · rfl

theorem lastSent_push_of_some {states : StateMap} (carried : states.get? key = some value) :
    lastSent (state.push role states).log key = some value := by
  have present : key ∈ states.keys := InsertionMap.mem_keys_iff.mpr ⟨value, carried⟩
  rw [push_log, if_neg (List.ne_nil_of_mem present), lastSent_append, carried]
  rfl

theorem lastSent_push_of_none {states : StateMap} (left : states.get? key = none) :
    lastSent (state.push role states).log key = lastSent state.log key := by
  rw [push_log]
  split
  · rw [List.append_nil]
  · rw [lastSent_append, left, Option.none_or]

/-- A readable key is pushed when it has changed from the snapshot. -/
theorem get?_changed (readable : (publishedStates role dev options).get? key = some value)
    (pushed : Option StateMap) :
    (diffFrom role pushed dev options).changed.get? key =
      if changedFrom role key ((pushed.getD ∅).get? key) value then some value else none := by
  rw [diffFrom, InsertionMap.get?_filterKeys, readable]
  rfl

/-- After the push of a diff every readable key is within its tolerance. -/
theorem within_of_push (sound : state.Sound role)
    (readable : (publishedStates role dev options).get? key = some value) :
    ∃ sent, lastSent (state.push role (diffFrom role state.pushed dev options).changed).log key =
      some sent ∧ WithinTolerance role key sent value := by
  have carried := get?_changed readable state.pushed
  cases changed : changedFrom role key ((state.pushed.getD ∅).get? key) value with
  | true =>
      rw [changed, if_pos rfl] at carried
      exact ⟨value, lastSent_push_of_some carried, Or.inl value.equals_self⟩
  | false =>
      rw [changed, if_neg Bool.false_ne_true] at carried
      cases before : (state.pushed.getD ∅).get? key with
      | none =>
          rw [before] at changed
          cases changed
      | some sent =>
          rw [before] at changed
          refine ⟨sent, ?_, withinTolerance_of_not_changed changed⟩
          rw [lastSent_push_of_none carried]
          exact sound.sent key sent before

/-- A readable key that a diff does not carry is in the snapshot. -/
theorem carried_or_held (mem : key ∈ (publishedStates role dev options).keys)
    (pushed : Option StateMap) :
    key ∈ (diffFrom role pushed dev options).changed.keys ∨ key ∈ (pushed.getD ∅).keys := by
  rcases InsertionMap.mem_keys_iff.mp mem with ⟨value, readable⟩
  have carried := get?_changed readable pushed
  cases before : (pushed.getD ∅).get? key with
  | none =>
      rw [before, changedFrom, if_pos rfl] at carried
      exact Or.inl (InsertionMap.mem_keys_iff.mpr ⟨value, carried⟩)
  | some sent => exact Or.inr (InsertionMap.mem_keys_iff.mpr ⟨sent, before⟩)

/-- After the push of a diff the channel of the reading is the one that was sent last. -/
theorem lastChannel_push (sound : state.Sound role) {channel : ColorChannel}
    (shown : channelOfMap (publishedStates role dev options) = some channel) :
    lastChannel (state.push role (diffFrom role state.pushed dev options).changed).log =
      some channel := by
  rcases exists_key_of_channelOfMap shown with ⟨key, mem, isChannel⟩
  have sendable := sendable_changed role state.pushed dev options
  rw [push_log]
  rcases carried_or_held mem state.pushed with carried | held
  · rw [if_neg (List.ne_nil_of_mem carried), lastChannel_append,
      sendable.channelOfMap carried isChannel]
    rfl
  · have last : lastChannel state.log = some channel := sound.channel key held channel isChannel
    split
    · rw [List.append_nil, last]
    · rw [lastChannel_append, last]
      cases new : channelOfMap (diffFrom role state.pushed dev options).changed with
      | none => rfl
      | some other =>
          rcases exists_key_of_channelOfMap new with ⟨newKey, newMem, isOther⟩
          have readable := changed_keys role state.pushed dev options newMem
          have same := (sendable_published role dev options).channelOfMap readable isOther
          rw [shown] at same
          rw [Option.some_or, same]

end Pushes

/-- A key is in one of the state maps sent in between. -/
def NewlySent (before after : PushState) (key : String) : Prop :=
  ∃ frames, after.log = before.log ++ frames ∧ ∃ states ∈ frames, key ∈ states.keys

theorem NewlySent.push {role : Role} {before middle : PushState} {key : String}
    (sent : NewlySent before middle key) (states : StateMap) :
    NewlySent before (middle.push role states) key := by
  rcases sent with ⟨frames, extended, carrier, mem, carries⟩
  refine ⟨frames ++ if states.keys = [] then [] else [states], ?_, carrier,
    List.mem_append_left _ mem, carries⟩
  rw [push_log, extended, List.append_assoc]

/-- The reading an update ends with: where the endpoint is created again, the one its spec
was built from, and otherwise the new one. -/
def settledReading (origDev newDev : DeviceReading) (current : Option DeviceReading) :
    Option DeviceReading :=
  if gainsBattery origDev newDev then current else some newDev

/-- The snapshot does not show a colour temperature beside a hue or a saturation. -/
def PushState.Exclusive (state : PushState) : Prop :=
  STATE_COLOR_TEMP_MIREDS ∈ (state.pushed.getD ∅).keys →
    STATE_HUE ∉ (state.pushed.getD ∅).keys ∧ STATE_SATURATION ∉ (state.pushed.getD ∅).keys

/-- What an update leaves: every readable key was last sent within its tolerance; a channel
other than the last one is sent again in full; and the snapshot shows one channel. -/
structure PushSettled (role : Role) (options : Options) (reading : DeviceReading)
    (before after : PushState) : Prop where
  within : ∀ key value, (publishedStates role reading options).get? key = some value →
    ∃ sent, lastSent after.log key = some sent ∧ WithinTolerance role key sent value
  resent : ∀ key ∈ (publishedStates role reading options).keys, ∀ channel other,
    channelOf key = some channel → lastChannel before.log = some other → other ≠ channel →
      NewlySent before after key
  channel : ∀ channel, channelOfMap (publishedStates role reading options) = some channel →
    lastChannel after.log = some channel
  exclusive : after.Exclusive

theorem PushState.Sound.exclusive {role : Role} {state : PushState} (sound : state.Sound role) :
    state.Exclusive := by
  intro temperature
  have last : lastChannel state.log = some .temperature :=
    sound.channel _ temperature .temperature rfl
  constructor
  · intro hue
    have other := sound.channel _ hue .hueSaturation rfl
    rw [last] at other
    cases other
  · intro saturation
    have other := sound.channel _ saturation .hueSaturation rfl
    rw [last] at other
    cases other

/-- A spec leaves its own reading settled. -/
theorem pushSettled_sendSpec {role : Role} {state : PushState} (options : Options)
    (dev : DeviceReading) :
    PushSettled role options dev state (state.sendSpec role options (some dev)) where
  within := by
    intro key value readable
    refine ⟨value, ?_, Or.inl value.equals_self⟩
    rw [PushState.sendSpec, lastSent_append, readable]
    rfl
  resent := by
    intro key mem _ _ _ _ _
    exact ⟨_, rfl, _, List.mem_singleton_self _, mem⟩
  channel := by
    intro channel shown
    rw [PushState.sendSpec, lastChannel_append, shown]
    rfl
  exclusive := (sound_sendSpec options (some dev)).exclusive

theorem extends_respec {role : Role} (options : Options) (respec : Bool)
    (current : Option DeviceReading) (state : PushState) :
    ∃ frames, (if respec then state.sendSpec role options current else state).log =
      state.log ++ frames := by
  cases respec with
  | false => exact ⟨[], (List.append_nil _).symm⟩
  | true =>
      cases current with
      | none => exact ⟨[], (List.append_nil _).symm⟩
      | some dev => exact ⟨[publishedStates role dev options], rfl⟩

/-- An update that does not create the endpoint again: a spec for a new name, if any, and the
push of the diff. -/
theorem pushSettled_push {role : Role} {state : PushState} (sound : state.Sound role)
    (options : Options) (newDev : DeviceReading) (respec : Bool)
    (current : Option DeviceReading) :
    let named := if respec then state.sendSpec role options current else state
    PushSettled role options newDev state
      (named.push role (diffFrom role named.pushed newDev options).changed) := by
  intro named
  have namedSound : named.Sound role := by
    cases respec with
    | true => exact sound_sendSpec options current
    | false => exact sound
  refine ⟨fun _ _ readable => within_of_push namedSound readable, ?_,
    fun _ shown => lastChannel_push namedSound shown,
    (sound_push namedSound (sendable_changed role named.pushed newDev options)).exclusive⟩
  intro key mem channel other isChannel last different
  rcases carried_or_held mem named.pushed with carried | held
  · rcases extends_respec options respec current state with ⟨frames, extended⟩
    refine ⟨frames ++ [(diffFrom role named.pushed newDev options).changed], ?_, _,
      List.mem_append_right _ (List.mem_singleton_self _), carried⟩
    rw [push_log, if_neg (List.ne_nil_of_mem carried), extended, List.append_assoc]
  · -- the snapshot holds the key of a channel that was not the last: a spec has sent it
    have namedLast : lastChannel named.log = some channel :=
      namedSound.channel key held channel isChannel
    cases respec with
    | false =>
        rw [show named = state from rfl, last] at namedLast
        exact absurd (Option.some.inj namedLast) different
    | true =>
        cases current with
        | none => cases held
        | some dev =>
            apply NewlySent.push
            exact ⟨[publishedStates role dev options], rfl, _, List.mem_singleton_self _, held⟩

/-- In every state of an attached export the snapshot shows one channel; and after every
update, whatever came before, the last value sent of every readable key is within its
tolerance of the reading. -/
theorem pushSettled_of_run {role : Role} {events : List PushEvent} {before : PushState}
    (run : Run (PushState.step role) PushState.fresh events before) :
    before.Exclusive ∧
      ∀ (options : Options) (nameOverride : Option String) (origDev newDev reading : DeviceReading)
        (current : Option DeviceReading) (after : PushState),
        PushState.step role before
          (.updated options nameOverride origDev newDev current) = some after →
        settledReading origDev newDev current = some reading →
          PushSettled role options reading before after := by
  have sound := sound_of_run run
  refine ⟨sound.exclusive, ?_⟩
  intro options nameOverride origDev newDev reading current after step ends
  obtain rfl := Option.some.inj step
  unfold settledReading at ends
  unfold PushState.deviceUpdated
  split
  · rename_i gains
    rw [if_pos gains] at ends
    rw [ends]
    exact pushSettled_sendSpec options reading
  · rename_i stays
    rw [if_neg stays] at ends
    obtain rfl := Option.some.inj ends
    have pushed := pushSettled_push sound options newDev
      (nameOverride = none ∧ origDev.name ≠ newDev.name) current
    simpa using pushed

/-- A colour light in the given mode. -/
def colourReading (mode : String) (red green blue kelvin : ℤ) : DeviceReading where
  name := "Lamp"
  enabled := true
  configured := true
  onState := .bool true
  brightness := .int 80
  whiteTemperature := .int kelvin
  redLevel := .int red
  greenLevel := .int green
  blueLevel := .int blue
  sensorValue := .none
  temperatures := none
  heatSetpoint := .none
  coolSetpoint := .none
  hvacMode := none
  batteryLevel := .none
  states := some (.ofList [("colorMode", .str mode)])

/-- A light that goes from a colour to white and back to the same colour. -/
theorem pushSettled_after_mode_flip :
    let colour := colourReading "hs" 0 50 100 2700
    let white := colourReading "color_temp" 0 50 100 2700
    let attached := PushState.fresh.sendSpec .extendedColorLight ∅ (some colour)
    let flipped := attached.deviceUpdated .extendedColorLight ∅ none colour white none
    flipped.Exclusive ∧ PushSettled .extendedColorLight ∅ colour flipped
      (flipped.deviceUpdated .extendedColorLight ∅ none white colour none) := by
  intro colour white attached flipped
  have run : Run (PushState.step .extendedColorLight) PushState.fresh
      [.spec ∅ (some colour), .updated ∅ none colour white none] flipped :=
    .snoc (.snoc .nil trivial rfl) trivial rfl
  rcases pushSettled_of_run run with ⟨exclusive, settled⟩
  exact ⟨exclusive, settled ∅ none white colour colour none _ rfl rfl⟩

end IndigoMatter.Plugin
