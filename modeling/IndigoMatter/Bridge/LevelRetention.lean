import IndigoMatter.Bridge.EndpointState

/-!
# The level an endpoint shows

A dimmer that is off reports a brightness of zero.  A push never writes that zero, so
the level an endpoint shows is the last other one that was pushed, whatever the pushes
said about on and off and however they were cut into frames.
-/

namespace IndigoMatter.Bridge

open IndigoMatter.Library

/-- The number a property holds. -/
def numberProperty (states : Struct) (name : String) : Option JsNumber :=
  match Json.property states name with
  | some (.number value) => some value
  | _ => none

/-- One `set_state`, with what the Matter stack answers to its halves. -/
structure Push where
  states : Struct
  hasBattery : Bool
  indigoDeviceId : Int
  faults : EndpointState.PushFaults

namespace Push

/-- A push is refused for a battery level that the endpoint has no battery for. -/
def isRefused (push : Push) : Bool := (splitBattery push.states).1.isSome && !push.hasBattery

/-- The level of a push that reaches the endpoint, unless it is zero. -/
def landedLevel (push : Push) : Option JsNumber :=
  if push.isRefused || push.faults.residualSet.isSome then none
  else (numberProperty push.states "level").filter (· ≠ .finite 0)

/-- `applyStates` of a push. -/
def apply (toDouble : Rat → JsNumber) (role : Role) (state : EndpointState) (push : Push) :
    EndpointState :=
  (state.applyStates toDouble role push.states push.hasBattery push.indigoDeviceId
    push.faults).2

end Push

theorem property_splitBattery {states : Struct} {name : String} (other : name ≠ "batteryLevel") :
    Json.property (splitBattery states).2 name = Json.property states name := by
  unfold splitBattery
  split
  · split
    · exact property_filter (fun key => decide (key ≠ "batteryLevel")) states
        (decide_eq_true other)
    · rfl
  · rfl

/-! ## The level of a patch -/

theorem number?_levelPatch (states : Struct) :
    Patch.number? (levelPatch states) .currentLevel = numberProperty states "level" := by
  unfold levelPatch numberPatch numberProperty
  cases Json.property states "level" with
  | none => rfl
  | some value => cases value <;> rfl

theorem number?_onOffPatch (states : Struct) :
    Patch.number? (onOffPatch states) .currentLevel = none := by
  unfold onOffPatch booleanPatch
  split <;> rfl

theorem number?_numberPatch_ne {target other : Attribute} (differ : target ≠ other) (key : String)
    (states : Struct) : Patch.number? (numberPatch target key states) other = none := by
  unfold numberPatch Patch.number?
  split
  · simp [differ]
  · rfl

theorem number?_append (first second : Patch) (target : Attribute) :
    Patch.number? (first ++ second) target =
      (first.number? target).or (second.number? target) := by
  unfold Patch.number?
  rw [List.findSome?_append]

theorem number?_colorPatch (states : Struct) (hueSaturation : Bool) :
    Patch.number? (colorPatch states hueSaturation) .currentLevel = none := by
  unfold colorPatch
  rw [number?_append, number?_numberPatch_ne (by decide)]
  cases hueSaturation with
  | false => rfl
  | true =>
      rw [if_pos rfl, number?_append, number?_numberPatch_ne (by decide),
        number?_numberPatch_ne (by decide)]
      rfl

/-- The level a role with a level converts is the one its push carries. -/
theorem number?_statePatch {role : Role} (bears : role.bearsLevel = true) (states : Struct) :
    (statePatch role states).number? .currentLevel = numberProperty states "level" := by
  cases role with
  | dimmableLight =>
      unfold statePatch
      rw [number?_append, number?_onOffPatch, number?_levelPatch]
      rfl
  | colorTemperatureLight =>
      unfold statePatch
      rw [number?_append, number?_append, number?_onOffPatch, number?_levelPatch,
        number?_colorPatch, Option.or_none]
      rfl
  | extendedColorLight =>
      unfold statePatch
      rw [number?_append, number?_append, number?_onOffPatch, number?_levelPatch,
        number?_colorPatch, Option.or_none]
      rfl
  | _ => cases bears

/-- What is refused either needs a battery or has no level. -/
theorem numberProperty_of_refused {role : Role} (bears : role.bearsLevel = true)
    {states : Struct} {hasBattery : Bool} {indigoDeviceId : Int} {error : ProtocolError}
    (refused : acceptStates role states hasBattery indigoDeviceId = .error error) :
    ((splitBattery states).1.isSome = true ∧ hasBattery = false) ∨
      numberProperty (splitBattery states).2 "level" = none := by
  unfold acceptStates at refused
  split at refused
  · rename_i battery rest same
    split at refused
    · cases refused
    · rename_i without
      rw [same]
      exact Or.inl ⟨rfl, by simpa using without⟩
  · rename_i rest same
    unfold statePatchOrRefuse at refused
    dsimp only at refused
    split at refused
    · rename_i empty
      right
      rw [same, ← number?_statePatch bears, empty.2]
      rfl
    · cases refused

/-- An accepted patch is the role's, without the battery. -/
theorem eq_statePatch_of_accepted {role : Role} {states : Struct} {hasBattery : Bool}
    {indigoDeviceId : Int} {patch : Patch}
    (accepted : acceptStates role states hasBattery indigoDeviceId = .ok patch) :
    patch = statePatch role (splitBattery states).2 ∧
      ((splitBattery states).1.isSome && !hasBattery) = false := by
  unfold acceptStates at accepted
  split at accepted
  · rename_i battery rest same
    split at accepted
    · rename_i powered
      rw [same, powered]
      exact ⟨(Except.ok.inj accepted).symm, rfl⟩
    · cases accepted
  · rename_i rest same
    unfold statePatchOrRefuse at accepted
    dsimp only at accepted
    split at accepted
    · cases accepted
    · rw [same]
      exact ⟨(Except.ok.inj accepted).symm, rfl⟩

/-! ## One push -/

namespace EndpointState

variable {toDouble : Rat → JsNumber} {role : Role} {state : EndpointState}

theorem currentLevel_retainLevelWhileOff (rest : Struct) (patch : WrittenPatch) :
    (patch.retainLevelWhileOff rest).currentLevel =
      if numberProperty rest "level" = some (.finite 0) then none else patch.currentLevel := by
  unfold WrittenPatch.retainLevelWhileOff numberProperty
  split
  · rename_i value held
    rw [held]
    by_cases zero : value = 0
    · rw [if_pos zero, if_pos (by rw [zero])]
    · rw [if_neg zero, if_neg]
      intro same
      exact zero (JsNumber.finite.inj (Option.some.inj same))
  · rename_i notFinite
    rw [if_neg]
    intro same
    split at same
    · rename_i value held
      obtain rfl := Option.some.inj same
      exact notFinite 0 held
    · cases same

/-- The level a push writes is that of its states, unless it is zero. -/
theorem currentLevel_pushedPatch (bears : role.bearsLevel = true) (states : Struct) :
    (pushedPatch toDouble (statePatch role (splitBattery states).2) states state).currentLevel =
      ((numberProperty states "level").filter (· ≠ .finite 0)).map
        (percentToCurrentLevel toDouble) := by
  have same : numberProperty (splitBattery states).2 "level" = numberProperty states "level" := by
    unfold numberProperty
    rw [property_splitBattery (by decide)]
  calc
    (pushedPatch toDouble (statePatch role (splitBattery states).2) states state).currentLevel =
        ((WrittenPatch.ofPatch toDouble (statePatch role (splitBattery states).2)
          ).retainLevelWhileOff (splitBattery states).2).currentLevel := rfl
    _ = if numberProperty states "level" = some (.finite 0) then none
          else (numberProperty states "level").map (percentToCurrentLevel toDouble) := by
      rw [currentLevel_retainLevelWhileOff, same, WrittenPatch.ofPatch, number?_statePatch bears,
        same]
    _ = _ := by
      cases numberProperty states "level" with
      | none => rfl
      | some value =>
          by_cases zero : value = .finite 0
          · simp [zero]
          · simp [zero]

theorem currentLevel_applyIndigoOnOff (onOff : Option Bool) (fault : Option String) :
    (state.applyIndigoOnOff onOff fault).currentLevel = state.currentLevel := by
  unfold applyIndigoOnOff
  split <;> rfl

/-- A patch whose level is written unless the write fails. -/
theorem currentLevel_applyResidual (patch : WrittenPatch) (fault : Option String) :
    (state.applyResidual patch fault).currentLevel =
      (if fault.isSome then none else patch.currentLevel).or state.currentLevel := by
  unfold applyResidual
  by_cases empty : patch.residualIsEmpty = true
  · rw [if_pos empty]
    have unset : patch.currentLevel = none := by
      unfold WrittenPatch.residualIsEmpty at empty
      simp only [Bool.and_eq_true] at empty
      exact Option.isNone_iff_eq_none.mp empty.1.1.1
    rw [unset, ite_self]
    rfl
  · rw [if_neg empty]
    cases fault with
    | none => rfl
    | some message => rfl

/-- One push: the level it carries lands, and with none the level stays. -/
theorem currentLevel_apply (bears : role.bearsLevel = true) (push : Push) :
    (Push.apply toDouble role state push).currentLevel =
      (push.landedLevel.map (percentToCurrentLevel toDouble)).or state.currentLevel := by
  unfold Push.apply applyStates Push.landedLevel Push.isRefused
  cases accepted : acceptStates role push.states push.hasBattery push.indigoDeviceId with
  | error error =>
      dsimp only
      rcases numberProperty_of_refused bears accepted with ⟨battery, without⟩ | unleveled
      · rw [battery, without]
        rfl
      · have same : numberProperty push.states "level" = none := by
          unfold numberProperty at unleveled ⊢
          rwa [property_splitBattery (by decide)] at unleveled
        rw [same]
        simp
  | ok patch =>
      rcases eq_statePatch_of_accepted accepted with ⟨rfl, fits⟩
      dsimp only
      rw [currentLevel_applyResidual, currentLevel_applyIndigoOnOff,
        currentLevel_pushedPatch bears, fits, Bool.false_or]
      cases push.faults.residualSet with
      | none => rfl
      | some message => rfl

/-! ## Every sequence of pushes -/

/-- The level shown is the conversion of the last level that landed and is not zero, and
the one there was before if there is none. -/
theorem currentLevel_of_pushes (bears : role.bearsLevel = true) (pushes : List Push) :
    (pushes.foldl (Push.apply toDouble role) state).currentLevel =
      ((pushes.filterMap Push.landedLevel).getLast?.map (percentToCurrentLevel toDouble)).or
        state.currentLevel := by
  induction pushes using List.reverseRecOn with
  | nil => rfl
  | append_singleton earlier push ih =>
      rw [List.foldl_append, List.foldl_cons, List.foldl_nil, currentLevel_apply bears, ih,
        List.filterMap_append, List.getLast?_append]
      cases landed : push.landedLevel with
      | none => simp [landed]
      | some level => simp [landed]

/-- A dimmer that goes off in three frames keeps the level it was on with. -/
theorem currentLevel_after_split_off :
    (([⟨[("onOff", .boolean true), ("level", .number (.ofInt 20))], false, 1, ⟨none, none⟩⟩,
      ⟨[("level", .number (.ofInt 0))], false, 1, ⟨none, none⟩⟩,
      ⟨[("onOff", .boolean false)], false, 1, ⟨none, none⟩⟩] : List Push).foldl
        (Push.apply .finite .dimmableLight) (initialState .dimmableLight false)).currentLevel =
      some 51 := by
  rw [currentLevel_of_pushes rfl]
  decide +kernel

end EndpointState

end IndigoMatter.Bridge
