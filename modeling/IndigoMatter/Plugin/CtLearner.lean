import IndigoMatter.Plugin.CtAdoption
import IndigoMatter.Plugin.CtWire

/-!
# Learning a colour-temperature bound

A reading outside the range of a device proves that the device reaches there, and widens
the range at once.  A reading that falls short of a fresh command may be a limit of the
hardware; it is adopted when a second command is answered with the same value.

What a bound rests on is stated over the log of a device, the commands and readings it has
had since the plugin started, and not over the learner's own state.
-/

namespace IndigoMatter.Plugin

open IndigoMatter.Library
open IndigoMatter.Bridge (Role)

/-! ## The learner -/

/-- Seconds. -/
def FRESHNESS_WINDOW_SECONDS : Rat := 15

def SHORTFALL_THRESHOLD_MIREDS : Nat := 10

def REPEAT_TOLERANCE_MIREDS : Nat := 1

/-- Seconds. -/
def MIN_CONFIRMATION_GAP_SECONDS : Rat := 2

/-- `_Commanded`: the last confirmed command for one device. -/
structure Commanded where
  mireds : Int
  recordedAt : Rat
deriving DecidableEq

/-- `_Pending`: one side's shortfall streak. -/
structure Pending where
  side : Side
  mireds : Int
  commandedAt : Rat
  startedAt : Rat
deriving DecidableEq

/-- What `_now` returns first and last while one reading is observed. -/
structure ClockReads where
  asked : Rat
  confirmed : Rat
deriving DecidableEq

/-- `CTBoundsLearner`. -/
structure CtLearner where
  commanded : InsertionMap Int Commanded
  pending : InsertionMap Int Pending

namespace CtLearner

/-- `record_commanded`. -/
def recordCommanded (deviceId mireds : Int) (now : Rat) (learner : CtLearner) : CtLearner :=
  { learner with commanded := learner.commanded.set deviceId ⟨mireds, now⟩ }

/-- `self._pending.pop(device_id, None)`. -/
def dropPending (deviceId : Int) (learner : CtLearner) : CtLearner :=
  { learner with pending := learner.pending.delete deviceId }

/-- `_observe_locked`, with the candidate it hands to `_adopt`. -/
def observeLocked (entry : ExportEntry) (mireds : Int) (clock : ClockReads) (learner : CtLearner) :
    CtLearner × Option Candidate :=
  let deviceId := entry.indigoDeviceId
  let bounds := effectiveCtBounds entry.options
  if mireds < bounds.1 then (learner, some ⟨deviceId, .min, mireds, false⟩)
  else if bounds.2 < mireds then (learner, some ⟨deviceId, .max, mireds, false⟩)
  else
    match learner.commanded.get? deviceId with
    | none => (learner.dropPending deviceId, none)
    | some commanded =>
        if FRESHNESS_WINDOW_SECONDS < clock.asked - commanded.recordedAt then
          (learner.dropPending deviceId, none)
        else
          let delta := mireds - commanded.mireds
          if delta.natAbs < SHORTFALL_THRESHOLD_MIREDS then (learner.dropPending deviceId, none)
          else
            let side := if delta < 0 then Side.max else Side.min
            let streak : Pending := ⟨side, mireds, commanded.recordedAt, clock.confirmed⟩
            let restarted := { learner with pending := learner.pending.set deviceId streak }
            match learner.pending.get? deviceId with
            | none => (restarted, none)
            | some pending =>
                if pending.side = side ∧
                    (pending.mireds - mireds).natAbs ≤ REPEAT_TOLERANCE_MIREDS then
                  if commanded.recordedAt = pending.commandedAt then (learner, none)
                  else if clock.confirmed - pending.startedAt < MIN_CONFIRMATION_GAP_SECONDS then
                    (learner, none)
                  else (learner.dropPending deviceId, some ⟨deviceId, side, mireds, false⟩)
                else (restarted, none)

end CtLearner

/-! ## What a bound rests on -/

/-- A reading with the clock and the effective range at the time. -/
structure Observation where
  mireds : Int
  clock : ClockReads
  low : Int
  high : Int

/-- What a device's learner has been told. -/
inductive CtRecord
  | restarted
  | commanded (command : Commanded)
  | observed (observation : Observation)

/-- The last command since the plugin started. -/
def reference? (log : List CtRecord) : Option Commanded :=
  log.foldl
    (fun reference record =>
      match record with
      | .restarted => none
      | .commanded command => some command
      | .observed _ => reference)
    none

namespace Observation

/-- The reading is past one end of the effective range. -/
def outside (observation : Observation) : Side → Prop
  | .min => observation.mireds < observation.low
  | .max => observation.high < observation.mireds

/-- The reading is in the effective range, answers a command in time, and misses it by
enough: upwards for the cool side, downwards for the warm one. -/
structure FallsShort (observation : Observation) (side : Side) (command : Commanded) : Prop where
  above : observation.low ≤ observation.mireds
  below : observation.mireds ≤ observation.high
  fresh : observation.clock.asked - command.recordedAt ≤ FRESHNESS_WINDOW_SECONDS
  far : SHORTFALL_THRESHOLD_MIREDS ≤ (observation.mireds - command.mireds).natAbs
  direction : side = if observation.mireds - command.mireds < 0 then .max else .min

/-- A reading in the effective range ends a streak, unless it falls short once more on the
same side and with the same value; a reading past the range leaves a streak alone. -/
def Resets (observation : Observation) (side : Side) (mireds : Int) (reference : Option Commanded) :
    Prop :=
  observation.low ≤ observation.mireds ∧ observation.mireds ≤ observation.high ∧
    ¬ ∃ command, reference = some command ∧ observation.FallsShort side command ∧
      (mireds - observation.mireds).natAbs ≤ REPEAT_TOLERANCE_MIREDS

end Observation

/-- A shortfall that nothing has reset since. -/
def Streak (log : List CtRecord) (side : Side) (first : Observation) (command : Commanded) : Prop :=
  ∃ earlier between, log = earlier ++ .observed first :: between ∧
    reference? earlier = some command ∧ first.FallsShort side command ∧
    CtRecord.restarted ∉ between ∧
    ∀ front observation back, between = front ++ .observed observation :: back →
      ¬ observation.Resets side first.mireds (reference? (earlier ++ .observed first :: front))

/-- A reading is good for a bound when it is past the range, or when it is the second of
two shortfalls of one value that answer two commands. -/
def Justifies (log : List CtRecord) (observation : Observation) (side : Side) : Prop :=
  observation.outside side ∨
    ∃ first command second, Streak log side first command ∧ reference? log = some second ∧
      observation.FallsShort side second ∧
      (first.mireds - observation.mireds).natAbs ≤ REPEAT_TOLERANCE_MIREDS ∧
      command.recordedAt ≠ second.recordedAt ∧
      MIN_CONFIRMATION_GAP_SECONDS ≤ observation.clock.confirmed - first.clock.confirmed

section Log

variable {log : List CtRecord} {side : Side} {first observation : Observation} {command : Commanded}

@[simp]
theorem reference?_restarted : reference? (log ++ [.restarted]) = none := by
  simp [reference?]

@[simp]
theorem reference?_commanded : reference? (log ++ [.commanded command]) = some command := by
  simp [reference?]

@[simp]
theorem reference?_observed : reference? (log ++ [.observed observation]) = reference? log := by
  simp [reference?]

theorem Streak.start (reference : reference? log = some command)
    (short : first.FallsShort side command) : Streak (log ++ [.observed first]) side first command :=
  ⟨log, [], rfl, reference, short, by simp, by simp⟩

/-- A streak outlives what does not reset it. -/
theorem Streak.append (streak : Streak log side first command) {record : CtRecord}
    (kept : record ≠ .restarted)
    (silent : ∀ observation, record = .observed observation →
      ¬ observation.Resets side first.mireds (reference? log)) :
    Streak (log ++ [record]) side first command := by
  rcases streak with ⟨earlier, between, rfl, reference, short, unbroken, repeats⟩
  refine ⟨earlier, between ++ [record], by simp, reference, short, ?_, ?_⟩
  · simp [unbroken, Ne.symm kept]
  · intro front observation back split
    rcases List.eq_nil_or_concat back with rfl | ⟨rest, last, rfl⟩
    · rcases List.append_inj' split rfl with ⟨rfl, same⟩
      exact silent observation (List.singleton_inj.mp same)
    · have whole : between ++ [record] = (front ++ .observed observation :: rest) ++ [last] := by
        simpa using split
      exact repeats front observation rest (List.append_inj' whole rfl).1

end Log

/-! ## One reading -/

/-- A reading of an entry, as the log has it. -/
def ExportEntry.observation (entry : ExportEntry) (mireds : Int) (clock : ClockReads) :
    Observation :=
  ⟨mireds, clock, (effectiveCtBounds entry.options).1, (effectiveCtBounds entry.options).2⟩

/-- The learner and the candidate after a reading: it widens the range; or, being in the
range, resets the streak, repeats it, completes it or starts one. -/
inductive ObservedAs (learner : CtLearner) (deviceId : Int) (observation : Observation) :
    CtLearner → Option Candidate → Prop
  | widens (side : Side) (outside : observation.outside side) :
      ObservedAs learner deviceId observation learner
        (some ⟨deviceId, side, observation.mireds, false⟩)
  | resets (above : observation.low ≤ observation.mireds)
      (below : observation.mireds ≤ observation.high) :
      ObservedAs learner deviceId observation (learner.dropPending deviceId) none
  | repeats (command : Commanded) (pending : Pending)
      (reference : learner.commanded.get? deviceId = some command)
      (stored : learner.pending.get? deviceId = some pending)
      (short : observation.FallsShort pending.side command)
      (same : (pending.mireds - observation.mireds).natAbs ≤ REPEAT_TOLERANCE_MIREDS) :
      ObservedAs learner deviceId observation learner none
  | completes (command : Commanded) (pending : Pending)
      (reference : learner.commanded.get? deviceId = some command)
      (stored : learner.pending.get? deviceId = some pending)
      (short : observation.FallsShort pending.side command)
      (same : (pending.mireds - observation.mireds).natAbs ≤ REPEAT_TOLERANCE_MIREDS)
      (distinct : command.recordedAt ≠ pending.commandedAt)
      (gap : MIN_CONFIRMATION_GAP_SECONDS ≤ observation.clock.confirmed - pending.startedAt) :
      ObservedAs learner deviceId observation (learner.dropPending deviceId)
        (some ⟨deviceId, pending.side, observation.mireds, false⟩)
  | starts (side : Side) (command : Commanded)
      (reference : learner.commanded.get? deviceId = some command)
      (short : observation.FallsShort side command) :
      ObservedAs learner deviceId observation
        { learner with
          pending := learner.pending.set deviceId
            ⟨side, observation.mireds, command.recordedAt, observation.clock.confirmed⟩ }
        none

theorem observedAs_observeLocked (entry : ExportEntry) (mireds : Int) (clock : ClockReads)
    (learner : CtLearner) :
    ObservedAs learner entry.indigoDeviceId (entry.observation mireds clock)
      (learner.observeLocked entry mireds clock).1 (learner.observeLocked entry mireds clock).2 := by
  unfold CtLearner.observeLocked
  dsimp only
  by_cases low : mireds < (effectiveCtBounds entry.options).1
  · rw [if_pos low]
    exact .widens .min low
  · by_cases high : (effectiveCtBounds entry.options).2 < mireds
    · rw [if_neg low, if_pos high]
      exact .widens .max high
    · rw [if_neg low, if_neg high]
      have above := not_lt.mp low
      have below := not_lt.mp high
      cases reference : learner.commanded.get? entry.indigoDeviceId with
      | none => exact .resets above below
      | some command =>
          dsimp only
          by_cases stale : FRESHNESS_WINDOW_SECONDS < clock.asked - command.recordedAt
          · rw [if_pos stale]
            exact .resets above below
          · by_cases near : (mireds - command.mireds).natAbs < SHORTFALL_THRESHOLD_MIREDS
            · rw [if_neg stale, if_pos near]
              exact .resets above below
            · rw [if_neg stale, if_neg near]
              have short : (entry.observation mireds clock).FallsShort
                  (if mireds - command.mireds < 0 then .max else .min) command :=
                ⟨above, below, Rat.not_lt.mp stale, not_lt.mp near, rfl⟩
              cases stored : learner.pending.get? entry.indigoDeviceId with
              | none => exact .starts _ command reference short
              | some pending =>
                  dsimp only
                  by_cases again : pending.side = (if mireds - command.mireds < 0 then .max else .min) ∧
                      (pending.mireds - mireds).natAbs ≤ REPEAT_TOLERANCE_MIREDS
                  · rw [if_pos again]
                    rw [← again.1] at short ⊢
                    split
                    · exact .repeats command pending reference stored short again.2
                    · rename_i distinct
                      split
                      · exact .repeats command pending reference stored short again.2
                      · rename_i apart
                        exact .completes command pending reference stored short again.2 distinct
                          (Rat.not_lt.mp apart)
                  · rw [if_neg again]
                    exact .starts _ command reference short

/-! ## One adoption -/

/-- The entry with a learned bound. -/
def ExportEntry.withLearned (entry : ExportEntry) (side : Side) (mireds : Int) : ExportEntry :=
  { entry with options := entry.options.set side.learnedKey (.int mireds) }

theorem withLearned_of_adopt {candidate : Candidate} {entry updated : ExportEntry}
    (adopted : adopt candidate (some entry) = .ok updated) :
    updated = entry.withLearned candidate.side candidate.mireds ∧
      (proposedBounds candidate entry.options).1 < (proposedBounds candidate entry.options).2 := by
  simp only [adopt] at adopted
  split at adopted
  · cases adopted
  · split at adopted
    · cases adopted
    · split at adopted
      · cases adopted
      · rename_i apart
        exact ⟨(Except.ok.inj adopted).symm, not_le.mp apart⟩

theorem ctBound?_set (options : Options) (key other : String) (value : Int) :
    ctBound? (options.set key (.int value)) other =
      if other = key then some value else ctBound? options other := by
  unfold ctBound?
  rw [InsertionMap.get?_set]
  split <;> rfl

/-- A learned bound is the effective one of its side. -/
theorem effective_withLearned (entry : ExportEntry) (deviceId : Int) (side : Side) (mireds : Int)
    (onlyIfUnclaimed : Bool) :
    effectiveCtBounds (entry.withLearned side mireds).options =
      proposedBounds ⟨deviceId, side, mireds, onlyIfUnclaimed⟩ entry.options := by
  cases side with
  | min =>
      have seed : OPTION_CT_MIN_MIREDS ≠ OPTION_CT_LEARNED_MIN_MIREDS := by decide
      have other : OPTION_CT_LEARNED_MAX_MIREDS ≠ OPTION_CT_LEARNED_MIN_MIREDS := by decide
      have otherSeed : OPTION_CT_MAX_MIREDS ≠ OPTION_CT_LEARNED_MIN_MIREDS := by decide
      simp [effectiveCtBounds, ctSide, ExportEntry.withLearned, Side.learnedKey, proposedBounds,
        ctBound?_set, other, otherSeed]
  | max =>
      have other : OPTION_CT_LEARNED_MIN_MIREDS ≠ OPTION_CT_LEARNED_MAX_MIREDS := by decide
      have otherSeed : OPTION_CT_MIN_MIREDS ≠ OPTION_CT_LEARNED_MAX_MIREDS := by decide
      simp [effectiveCtBounds, ctSide, ExportEntry.withLearned, Side.learnedKey, proposedBounds,
        ctBound?_set, other, otherSeed]

/-! ## What the store takes -/

section Validation

variable {options : Options} {role : Role} {deviceId : Int} {side : Side} {mireds : Int}

theorem checks_ok {first second : Except EntryError Unit} (firstOk : first = .ok ())
    (secondOk : second = .ok ()) : (do first; second) = .ok () := by
  rw [firstOk, secondOk]
  rfl

/-- A stored learned bound is an integer. -/
theorem boundTypes_of_validateCtPair {minKey maxKey : String} {seedPair : Bool}
    (checked : validateCtPair minKey maxKey seedPair options role deviceId = .ok ()) :
    validateBoundType minKey options deviceId = .ok () ∧
      validateBoundType maxKey options deviceId = .ok () := by
  unfold validateCtPair at checked
  split at checked
  · rename_i absent
    have missing : options.get? minKey = none ∧ options.get? maxKey = none := by
      simpa [InsertionMap.has] using absent
    simp [validateBoundType, missing]
  · split at checked
    · exact absurd checked (by simp)
    · rcases checks_of_ok checked with ⟨minOk, rest⟩
      exact ⟨minOk, (checks_of_ok rest).1⟩

/-- A check of one key depends on that key alone. -/
theorem validateOption_set {key other : String} {value : PyValue} {wellTyped : PyValue → Bool}
    {refusal : EntryError} {roles : List Role} (different : key ≠ other) :
    validateOption key wellTyped refusal roles (options.set other value) role deviceId =
      validateOption key wellTyped refusal roles options role deviceId := by
  simp [validateOption, InsertionMap.get?_set, different]

theorem validateBoundType_set {key other : String} {value : PyValue} (different : key ≠ other) :
    validateBoundType key (options.set other value) deviceId =
      validateBoundType key options deviceId := by
  simp [validateBoundType, InsertionMap.get?_set, different]

theorem validateCtPair_set {minKey maxKey other : String} {seedPair : Bool} {value : Int}
    (minDifferent : minKey ≠ other) (maxDifferent : maxKey ≠ other) :
    validateCtPair minKey maxKey seedPair (options.set other (.int value)) role deviceId =
      validateCtPair minKey maxKey seedPair options role deviceId := by
  simp [validateCtPair, validateBoundType_set, ctBound?_set, InsertionMap.has,
    InsertionMap.get?_set, minDifferent, maxDifferent]

/-- The store takes the learned pair with a new bound when the range it leads to is one. -/
theorem validateLearned_set
    (checked : validateCtPair OPTION_CT_LEARNED_MIN_MIREDS OPTION_CT_LEARNED_MAX_MIREDS false options
      role deviceId = .ok ())
    (coloured : role ∈ CT_ROLES)
    (range : IsRange (effectiveCtBounds (options.set side.learnedKey (.int mireds))).1
      (effectiveCtBounds (options.set side.learnedKey (.int mireds))).2) :
    validateCtPair OPTION_CT_LEARNED_MIN_MIREDS OPTION_CT_LEARNED_MAX_MIREDS false
      (options.set side.learnedKey (.int mireds)) role deviceId = .ok () := by
  have types := boundTypes_of_validateCtPair checked
  have different : OPTION_CT_LEARNED_MAX_MIREDS ≠ OPTION_CT_LEARNED_MIN_MIREDS := by decide
  cases side with
  | min =>
      have own : validateBoundType OPTION_CT_LEARNED_MIN_MIREDS
          (options.set OPTION_CT_LEARNED_MIN_MIREDS (.int mireds)) deviceId = .ok () := by
        simp [validateBoundType, PyValue.integer?]
      have otherType := (@validateBoundType_set options deviceId _ _ (.int mireds) different).trans
        types.2
      have bound : ctBound? (options.set OPTION_CT_LEARNED_MIN_MIREDS (.int mireds))
          OPTION_CT_LEARNED_MIN_MIREDS = some mireds := by simp [ctBound?_set]
      have present : (options.set OPTION_CT_LEARNED_MIN_MIREDS (.int mireds)).has
          OPTION_CT_LEARNED_MIN_MIREDS = true := by simp [InsertionMap.has]
      simp only [Side.learnedKey] at range ⊢
      unfold validateCtPair
      rw [if_neg (by simp [present]), if_neg (by simpa using coloured)]
      apply checks_ok own
      apply checks_ok otherType
      rw [bound]
      cases other : ctBound? (options.set OPTION_CT_LEARNED_MIN_MIREDS (.int mireds))
          OPTION_CT_LEARNED_MAX_MIREDS with
      | some high =>
          simp only [effectiveCtBounds, ctSide, bound, other, Option.some_or, Option.getD_some] at range
          exact if_pos range
      | none =>
          simp only [effectiveCtBounds, ctSide, bound, Option.some_or, Option.getD_some] at range
          have inside : GENERIC_MIN_MIREDS ≤ mireds ∧ mireds ≤ GENERIC_MAX_MIREDS :=
            ⟨range.1, (range.2.1.le).trans range.2.2⟩
          simp [validateCtPair.lone, inside]
  | max =>
      have own : validateBoundType OPTION_CT_LEARNED_MAX_MIREDS
          (options.set OPTION_CT_LEARNED_MAX_MIREDS (.int mireds)) deviceId = .ok () := by
        simp [validateBoundType, PyValue.integer?]
      have otherType := (@validateBoundType_set options deviceId _ _ (.int mireds)
        different.symm).trans types.1
      have bound : ctBound? (options.set OPTION_CT_LEARNED_MAX_MIREDS (.int mireds))
          OPTION_CT_LEARNED_MAX_MIREDS = some mireds := by simp [ctBound?_set]
      have present : (options.set OPTION_CT_LEARNED_MAX_MIREDS (.int mireds)).has
          OPTION_CT_LEARNED_MAX_MIREDS = true := by simp [InsertionMap.has]
      simp only [Side.learnedKey] at range ⊢
      unfold validateCtPair
      rw [if_neg (by simp [present]), if_neg (by simpa using coloured)]
      apply checks_ok otherType
      apply checks_ok own
      rw [bound]
      cases other : ctBound? (options.set OPTION_CT_LEARNED_MAX_MIREDS (.int mireds))
          OPTION_CT_LEARNED_MIN_MIREDS with
      | some low =>
          simp only [effectiveCtBounds, ctSide, bound, other, Option.some_or, Option.getD_some] at range
          exact if_pos range
      | none =>
          simp only [effectiveCtBounds, ctSide, bound, Option.some_or, Option.getD_some] at range
          have inside : GENERIC_MIN_MIREDS ≤ mireds ∧ mireds ≤ GENERIC_MAX_MIREDS :=
            ⟨range.1.trans range.2.1.le, range.2.2⟩
          simp [validateCtPair.lone, inside]

theorem validateOptions_set_learned (valid : validateOptions options role deviceId = .ok ())
    (coloured : role ∈ CT_ROLES)
    (range : IsRange (effectiveCtBounds (options.set side.learnedKey (.int mireds))).1
      (effectiveCtBounds (options.set side.learnedKey (.int mireds))).2) :
    validateOptions (options.set side.learnedKey (.int mireds)) role deviceId = .ok () := by
  rcases checks_of_ok valid with ⟨invert, afterInvert⟩
  rcases checks_of_ok afterInvert with ⟨stateKey, afterStateKey⟩
  rcases checks_of_ok afterStateKey with ⟨stateInvert, bounds⟩
  rcases checks_of_ok bounds with ⟨seed, learned⟩
  have apart : ∀ key ∈ [OPTION_INVERT, OPTION_STATE_KEY, OPTION_STATE_INVERT, OPTION_CT_MIN_MIREDS,
      OPTION_CT_MAX_MIREDS], key ≠ side.learnedKey := by
    cases side <;> decide
  apply checks_ok
  · rw [validateOption_set (apart _ (by simp))]
    exact invert
  · apply checks_ok
    · rw [validateOption_set (apart _ (by simp))]
      exact stateKey
    · apply checks_ok
      · rw [validateOption_set (apart _ (by simp))]
        exact stateInvert
      · apply checks_ok
        · rw [validateCtPair_set (apart _ (by simp)) (apart _ (by simp))]
          exact seed
        · exact validateLearned_set learned coloured range

end Validation

/-- The store takes an entry when it takes its options and its identity is lawful. -/
theorem validateEntry_eq_ok_iff {entry : ExportEntry} :
    validateEntry entry = .ok () ↔
      (∀ publishedAs, entry.publishedAs = some publishedAs →
        (Bridge.parsePublishedId publishedAs).isSome = true) ∧
      validateOptions entry.options entry.role entry.indigoDeviceId = .ok () := by
  unfold validateEntry
  cases entry.publishedAs with
  | none => simp
  | some publishedAs =>
      cases parsed : Bridge.parsePublishedId publishedAs with
      | none => simp [parsed, bind, Except.bind]
      | some published => simp [parsed]

/-- A stored entry with a new learned bound is one the store takes, when the range it leads
to is one. -/
theorem validateEntry_withLearned {entry : ExportEntry} (valid : validateEntry entry = .ok ())
    (coloured : entry.role ∈ CT_ROLES) {side : Side} {mireds : Int}
    (range : IsRange (effectiveCtBounds (entry.withLearned side mireds).options).1
      (effectiveCtBounds (entry.withLearned side mireds).options).2) :
    validateEntry (entry.withLearned side mireds) = .ok () := by
  rcases validateEntry_eq_ok_iff.mp valid with ⟨identity, options⟩
  exact validateEntry_eq_ok_iff.mpr ⟨identity, validateOptions_set_learned options coloured range⟩

/-- And the bound it leads to is in the domain. -/
theorem inDomain_of_validateEntry {entry : ExportEntry} {side : Side} {mireds : Int}
    (valid : validateEntry (entry.withLearned side mireds) = .ok ()) : InDomain mireds := by
  have learned := (pairsAllowed_of_validateOptions (validateEntry_eq_ok_iff.mp valid).2).2
  have inRange {low high value : Int} (range : IsRange low high) (isSide : value = low ∨ value = high) :
      InDomain value := by
    rcases isSide with rfl | rfl
    · exact ⟨range.1, range.2.1.le.trans range.2.2⟩
    · exact ⟨range.1.trans range.2.1.le, range.2.2⟩
  cases side with
  | min =>
      have bound : ctBound? (entry.withLearned .min mireds).options OPTION_CT_LEARNED_MIN_MIREDS =
          some mireds := by simp [ExportEntry.withLearned, Side.learnedKey, ctBound?_set]
      rw [bound] at learned
      cases other : ctBound? (entry.withLearned .min mireds).options OPTION_CT_LEARNED_MAX_MIREDS with
      | none =>
          rw [other] at learned
          exact learned.2
      | some high =>
          rw [other] at learned
          exact inRange learned (.inl rfl)
  | max =>
      have bound : ctBound? (entry.withLearned .max mireds).options OPTION_CT_LEARNED_MAX_MIREDS =
          some mireds := by simp [ExportEntry.withLearned, Side.learnedKey, ctBound?_set]
      rw [bound] at learned
      cases other : ctBound? (entry.withLearned .max mireds).options OPTION_CT_LEARNED_MIN_MIREDS with
      | none =>
          rw [other] at learned
          exact learned.2
      | some low =>
          rw [other] at learned
          exact inRange learned (.inr rfl)

/-! ## The history of one device -/

/-- The learner, the export store, the list that the preference holds, and what the learner
has been told of one device. -/
structure CtHistory where
  learner : CtLearner
  store : ExportStore
  preference : InsertionMap Int ExportEntry
  log : List CtRecord

/-- A confirmed command, an update of the device with its colour temperature if it is in
that mode, or a restart of the plugin. -/
inductive CtEvent
  | commanded (mireds : Int) (now : Rat)
  | updated (reading : Option Int) (clock : ClockReads) (flush : Flush)
  | restarted

namespace CtHistory

/-- The plugin with a list of exports and a new learner. -/
def initial (listed : List ExportEntry) : CtHistory where
  learner := ⟨∅, ∅⟩
  store := (SharedStore.loaded listed).store
  preference := (SharedStore.loaded listed).store.entries
  log := []

/-- `_adopt`: a write that fails puts the preference back, unless that fails as well. -/
def adopt (flush : Flush) (candidate : Candidate) (history : CtHistory) : CtHistory :=
  match Plugin.adopt candidate (history.store.get candidate.deviceId) with
  | .error _ => history
  | .ok updated =>
      { history with
        store := finalState (ExportStore.upsert flush updated history.store)
        preference :=
          if (validateEntry updated).isOk && flush ≠ .failed then
            history.store.entries.set updated.indigoDeviceId updated
          else history.preference }

/-- `observe`, with the record it leaves. -/
def observe (entry : ExportEntry) (mireds : Int) (clock : ClockReads) (flush : Flush)
    (history : CtHistory) : CtHistory :=
  if entry.role ∈ CT_ROLES then
    let observed := history.learner.observeLocked entry mireds clock
    let adopted :=
      match observed.2 with
      | some candidate => history.adopt flush candidate
      | none => history
    { adopted with
      learner := observed.1
      log := history.log ++ [.observed (entry.observation mireds clock)] }
  else history

/-- `_push_commanded`, `device_updated` and a restart, as far as the learner goes. -/
def step (deviceId : Int) : LabelledStep CtHistory CtEvent
  | history, .commanded mireds now =>
      some { history with
        learner := history.learner.recordCommanded deviceId mireds now
        log := history.log ++ [.commanded ⟨mireds, now⟩] }
  | history, .updated reading clock flush =>
      match history.store.get deviceId, reading with
      | some entry, some mireds => some (history.observe entry mireds clock flush)
      | _, _ => some history
  -- The text of the preference is taken to be read back as it was written.
  | history, .restarted =>
      some { history with
        learner := ⟨∅, ∅⟩
        store := { history.store with entries := history.preference }
        log := history.log ++ [.restarted] }

/-- The learned bound of one side, as stored. -/
def learned (history : CtHistory) (deviceId : Int) (side : Side) : Option PyValue :=
  (history.store.get deviceId).bind (·.options.get? side.learnedKey)

end CtHistory

/-! ## The learner's state and the log -/

/-- A list that a learned bound has been added to, for a reading of the log that justifies
it, or that is as it was. -/
inductive LearnedFrom (log : List CtRecord) (stored : Option ExportEntry) :
    Option ExportEntry → Prop
  | same : LearnedFrom log stored stored
  | adds (entry : ExportEntry) (side : Side) (earlier : List CtRecord) (observation : Observation)
      (later : List CtRecord) (exported : stored = some entry)
      (recorded : log = earlier ++ .observed observation :: later)
      (justified : Justifies earlier observation side) :
      LearnedFrom log stored (some (entry.withLearned side observation.mireds))

theorem LearnedFrom.append {log : List CtRecord} {stored kept : Option ExportEntry}
    (learned : LearnedFrom log stored kept) (record : CtRecord) :
    LearnedFrom (log ++ [record]) stored kept := by
  cases learned with
  | same => exact .same
  | adds entry side earlier observation later exported recorded justified =>
      exact .adds entry side earlier observation (later ++ [record]) exported (by simp [recorded])
        justified

/-- The learner remembers what the log says, and the preference is at most one justified
bound ahead of the list. -/
structure CtHistory.Tracked (history : CtHistory) (deviceId : Int) : Prop where
  keyed : ∀ entry, history.store.get deviceId = some entry → entry.indigoDeviceId = deviceId
  commanded : history.learner.commanded.get? deviceId = reference? history.log
  pending : ∀ pending, history.learner.pending.get? deviceId = some pending →
    ∃ first command, Streak history.log pending.side first command ∧
      pending = ⟨pending.side, first.mireds, command.recordedAt, first.clock.confirmed⟩
  preference : LearnedFrom history.log (history.store.get deviceId)
    (history.preference.get? deviceId)

namespace CtHistory

variable {history : CtHistory} {deviceId : Int} {entry : ExportEntry} {side : Side} {mireds : Int}
  {clock : ClockReads} {flush : Flush}

/-- What an adoption does to the entry of its device, and to the preference: nothing, or it
adds the bound to the preference and, unless the write fails, to the list. -/
theorem get_adopt (stored : history.store.get deviceId = some entry)
    (own : entry.indigoDeviceId = deviceId) :
    let next := history.adopt flush ⟨deviceId, side, mireds, false⟩
    (next.store.get deviceId = some entry ∧
        next.preference.get? deviceId = history.preference.get? deviceId) ∨
      (validateEntry (entry.withLearned side mireds) = .ok () ∧
        (effectiveCtBounds (entry.withLearned side mireds).options).1 <
          (effectiveCtBounds (entry.withLearned side mireds).options).2 ∧
        next.preference.get? deviceId = some (entry.withLearned side mireds) ∧
        (next.store.get deviceId = some entry ∨
          next.store.get deviceId = some (entry.withLearned side mireds))) := by
  intro next
  cases adopted : Plugin.adopt ⟨deviceId, side, mireds, false⟩ (some entry) with
  | error discard =>
      have same : next = history := by
        simp only [next, adopt, stored, adopted]
      exact .inl ⟨by rw [same, stored], by rw [same]⟩
  | ok updated =>
      rcases withLearned_of_adopt adopted with ⟨rfl, apart⟩
      have device : (entry.withLearned side mireds).indigoDeviceId = deviceId := own
      have after : next.store.get deviceId =
          if ExportStore.lands flush (entry.withLearned side mireds) = true then
            some (entry.withLearned side mireds)
          else some entry := by
        simp only [next, adopt, stored, adopted, SharedStore.get_upsert, device, and_true]
      have kept : next.preference.get? deviceId =
          if (validateEntry (entry.withLearned side mireds)).isOk && flush ≠ .failed then
            some (entry.withLearned side mireds)
          else history.preference.get? deviceId := by
        simp only [next, adopt, stored, adopted, device]
        split
        · rw [InsertionMap.get?_set_self]
        · rfl
      rw [← effective_withLearned] at apart
      cases valid : validateEntry (entry.withLearned side mireds) with
      | error error =>
          left
          simp [after, kept, valid, ExportStore.lands, Except.isOk, Except.toBool]
      | ok checked =>
          cases flush with
          | saved =>
              right
              simp [after, kept, valid, ExportStore.lands, Except.isOk, Except.toBool, apart]
          | failed =>
              left
              simp [after, kept, valid, ExportStore.lands, Except.isOk, Except.toBool]
          | failedRollback =>
              right
              simp [after, kept, valid, ExportStore.lands, Except.isOk, Except.toBool, apart]

/-- A reading keeps the learner's memory in step with the log. -/
theorem learner_observe {learner next : CtLearner} {log : List CtRecord} {observation : Observation}
    {candidate : Option Candidate} (observed : ObservedAs learner deviceId observation next candidate)
    (commanded : learner.commanded.get? deviceId = reference? log)
    (pending : ∀ pending, learner.pending.get? deviceId = some pending →
      ∃ first command, Streak log pending.side first command ∧
        pending = ⟨pending.side, first.mireds, command.recordedAt, first.clock.confirmed⟩) :
    next.commanded.get? deviceId = reference? (log ++ [.observed observation]) ∧
      ∀ pending, next.pending.get? deviceId = some pending →
        ∃ first command, Streak (log ++ [.observed observation]) pending.side first command ∧
          pending = ⟨pending.side, first.mireds, command.recordedAt, first.clock.confirmed⟩ := by
  rw [reference?_observed]
  cases observed with
  | widens side outside =>
      refine ⟨commanded, ?_⟩
      intro stored found
      rcases pending stored found with ⟨first, command, streak, same⟩
      refine ⟨first, command, streak.append (by simp) ?_, same⟩
      rintro other ⟨⟩ ⟨above, below, -⟩
      cases side with
      | min => exact absurd outside (not_lt.mpr above)
      | max => exact absurd outside (not_lt.mpr below)
  | resets =>
      refine ⟨commanded, ?_⟩
      intro stored found
      simp [CtLearner.dropPending] at found
  | completes =>
      refine ⟨commanded, ?_⟩
      intro stored found
      simp [CtLearner.dropPending] at found
  | repeats command repeated reference found short same =>
      refine ⟨commanded, ?_⟩
      intro stored isStored
      obtain rfl := Option.some.inj (found.symm.trans isStored)
      rcases pending repeated found with ⟨first, started, streak, shape⟩
      refine ⟨first, started, streak.append (by simp) ?_, shape⟩
      rintro other ⟨⟩ ⟨-, -, noRepeat⟩
      have value : repeated.mireds = first.mireds := congrArg Pending.mireds shape
      rw [value] at same
      exact noRepeat ⟨command, by rw [← commanded, reference], short, same⟩
  | starts side command reference short =>
      refine ⟨commanded, ?_⟩
      intro stored found
      rw [InsertionMap.get?_set_self] at found
      obtain rfl := Option.some.inj found
      exact ⟨observation, command, .start (commanded.symm.trans reference) short, rfl⟩

/-- What the learner asks to adopt is the reading, and the log justifies it. -/
theorem justifies_of_observed {learner next : CtLearner} {log : List CtRecord}
    {observation : Observation} {candidate : Candidate}
    (observed : ObservedAs learner deviceId observation next (some candidate))
    (commanded : learner.commanded.get? deviceId = reference? log)
    (pending : ∀ pending, learner.pending.get? deviceId = some pending →
      ∃ first command, Streak log pending.side first command ∧
        pending = ⟨pending.side, first.mireds, command.recordedAt, first.clock.confirmed⟩) :
    candidate = ⟨deviceId, candidate.side, observation.mireds, false⟩ ∧
      Justifies log observation candidate.side := by
  cases observed with
  | widens side outside => exact ⟨rfl, .inl outside⟩
  | completes command repeated reference found short same distinct gap =>
      rcases pending repeated found with ⟨first, started, streak, shape⟩
      have value : repeated.mireds = first.mireds := congrArg Pending.mireds shape
      have asked : repeated.commandedAt = started.recordedAt := congrArg Pending.commandedAt shape
      have opened : repeated.startedAt = first.clock.confirmed := congrArg Pending.startedAt shape
      rw [value] at same
      rw [asked] at distinct
      rw [opened] at gap
      exact ⟨rfl, .inr ⟨first, started, command, streak, by rw [← commanded, reference], short, same,
        distinct.symm, gap⟩⟩

/-- What one reading does to the entry of its device and to the preference. -/
theorem get_observe (tracked : history.Tracked deviceId)
    (stored : history.store.get deviceId = some entry) (coloured : entry.role ∈ CT_ROLES) :
    let next := history.observe entry mireds clock flush
    (next.store.get deviceId = some entry ∧
        next.preference.get? deviceId = history.preference.get? deviceId) ∨
      ∃ side, Justifies history.log (entry.observation mireds clock) side ∧
        validateEntry (entry.withLearned side mireds) = .ok () ∧
        (effectiveCtBounds (entry.withLearned side mireds).options).1 <
          (effectiveCtBounds (entry.withLearned side mireds).options).2 ∧
        next.preference.get? deviceId = some (entry.withLearned side mireds) ∧
        (next.store.get deviceId = some entry ∨
          next.store.get deviceId = some (entry.withLearned side mireds)) := by
  intro next
  have own := tracked.keyed entry stored
  have observed := observedAs_observeLocked entry mireds clock history.learner
  rw [own] at observed
  have shape : next = CtHistory.observe entry mireds clock flush history := rfl
  rw [observe, if_pos coloured] at shape
  dsimp only at shape
  cases asked : (history.learner.observeLocked entry mireds clock).2 with
  | none =>
      rw [asked] at shape
      exact .inl ⟨by rw [shape]; exact stored, by rw [shape]⟩
  | some candidate =>
      rw [asked] at shape observed
      rcases justifies_of_observed observed tracked.commanded tracked.pending with ⟨same, justified⟩
      rw [same] at shape
      rcases @get_adopt history deviceId entry candidate.side mireds flush stored own with
        unchanged | ⟨valid, apart, kept, after⟩
      · left
        rw [shape]
        exact unchanged
      · right
        rw [shape]
        exact ⟨candidate.side, justified, valid, apart, kept, after⟩

theorem tracked_observe (tracked : history.Tracked deviceId)
    (stored : history.store.get deviceId = some entry) :
    (history.observe entry mireds clock flush).Tracked deviceId := by
  by_cases coloured : entry.role ∈ CT_ROLES
  · have own := tracked.keyed entry stored
    have observed := observedAs_observeLocked entry mireds clock history.learner
    rw [own] at observed
    rcases learner_observe observed tracked.commanded tracked.pending with ⟨commanded, pending⟩
    have learner : (history.observe entry mireds clock flush).learner =
        (history.learner.observeLocked entry mireds clock).1 := by
      rw [observe, if_pos coloured]
    have log : (history.observe entry mireds clock flush).log =
        history.log ++ [.observed (entry.observation mireds clock)] := by
      rw [observe, if_pos coloured]
    have lists := @get_observe history deviceId entry mireds clock flush tracked stored coloured
    refine ⟨?_, by rw [learner, log]; exact commanded, by rw [learner, log]; exact pending, ?_⟩
    · intro other found
      rcases lists with ⟨same, -⟩ | ⟨side, -, -, -, -, same | same⟩
      · rw [same] at found
        exact Option.some.inj found ▸ own
      · rw [same] at found
        exact Option.some.inj found ▸ own
      · rw [same] at found
        exact Option.some.inj found ▸ own
    · rw [log]
      rcases lists with ⟨same, kept⟩ | ⟨side, justified, -, -, kept, same | same⟩
      · rw [same, kept, ← stored]
        exact tracked.preference.append _
      · rw [same, kept]
        exact .adds entry side history.log _ [] rfl rfl justified
      · rw [same, kept]
        exact .same
  · rw [observe, if_neg coloured]
    exact tracked

theorem tracked_initial (listed : List ExportEntry) (deviceId : Int) :
    (initial listed).Tracked deviceId where
  keyed := fun entry stored => SharedStore.wellKeyed_ofList listed deviceId entry stored
  commanded := by simp [initial, reference?]
  pending := by simp [initial]
  preference := .same

theorem tracked_step {next : CtHistory} {event : CtEvent} (tracked : history.Tracked deviceId)
    (taken : step deviceId history event = some next) : next.Tracked deviceId := by
  cases event with
  | commanded mireds now =>
      obtain rfl := Option.some.inj taken
      refine ⟨tracked.keyed, ?_, ?_, tracked.preference.append _⟩
      · simp [CtLearner.recordCommanded]
      · intro pending found
        rcases tracked.pending pending found with ⟨first, command, streak, same⟩
        exact ⟨first, command, streak.append (by simp) (by simp), same⟩
  | updated reading clock flush =>
      cases stored : history.store.get deviceId with
      | none =>
          simp only [step, stored, Option.some.injEq] at taken
          exact taken ▸ tracked
      | some entry =>
          cases reading with
          | none =>
              simp only [step, stored, Option.some.injEq] at taken
              exact taken ▸ tracked
          | some mireds =>
              simp only [step, stored, Option.some.injEq] at taken
              exact taken ▸ tracked_observe tracked stored
  | restarted =>
      obtain rfl := Option.some.inj taken
      refine ⟨?_, by simp, by simp, .same⟩
      intro entry found
      cases kept : history.preference.get? deviceId with
      | none =>
          rw [ExportStore.get, kept] at found
          cases found
      | some other =>
          rw [ExportStore.get, kept] at found
          obtain rfl := Option.some.inj found
          have learned := tracked.preference
          rw [kept] at learned
          generalize exported : history.store.get deviceId = stored at learned
          cases learned with
          | same => exact tracked.keyed other exported
          | adds original side earlier observation later isStored recorded justified =>
              exact tracked.keyed original (exported.trans isStored)

/-! ## Every change is justified -/

theorem get?_withLearned (entry : ExportEntry) (side other : Side) (mireds : Int) :
    (entry.withLearned side mireds).options.get? other.learnedKey =
      if other = side then some (.int mireds) else entry.options.get? other.learnedKey := by
  have keys : other.learnedKey = side.learnedKey ↔ other = side := by
    cases other <;> cases side <;> decide
  rw [ExportEntry.withLearned, InsertionMap.get?_set]
  simp only [keys]

theorem learned_withLearned (stored : history.store.get deviceId = some entry) {other : Side}
    {next : CtHistory} (after : next.store.get deviceId = some (entry.withLearned side mireds))
    (changed : next.learned deviceId other ≠ history.learned deviceId other) :
    other = side ∧ next.learned deviceId other = some (.int mireds) := by
  rw [learned, learned, stored, after, Option.bind_some, Option.bind_some, get?_withLearned] at changed
  rw [learned, after, Option.bind_some, get?_withLearned]
  by_cases same : other = side
  · exact ⟨same, if_pos same⟩
  · rw [if_neg same] at changed
    exact absurd rfl changed

/-- A learned bound changes to a reading that justifies it: to the one observed, or at a
restart to the one whose write the preference kept. -/
theorem learned_step {next : CtHistory} {event : CtEvent} (tracked : history.Tracked deviceId)
    (taken : step deviceId history event = some next)
    (changed : next.learned deviceId side ≠ history.learned deviceId side) :
    ∃ earlier observation later, next.log = earlier ++ .observed observation :: later ∧
      (later = [] ∨ event = .restarted) ∧ Justifies earlier observation side ∧
      next.learned deviceId side = some (.int observation.mireds) := by
  cases event with
  | commanded mireds now =>
      obtain rfl := Option.some.inj taken
      exact absurd rfl changed
  | updated reading clock flush =>
      cases stored : history.store.get deviceId with
      | none =>
          simp only [step, stored, Option.some.injEq] at taken
          exact absurd (by rw [taken]) changed
      | some entry =>
          cases reading with
          | none =>
              simp only [step, stored, Option.some.injEq] at taken
              exact absurd (by rw [taken]) changed
          | some mireds =>
              simp only [step, stored, Option.some.injEq] at taken
              by_cases coloured : entry.role ∈ CT_ROLES
              · have log : next.log = history.log ++ [.observed (entry.observation mireds clock)] := by
                  rw [← taken, observe, if_pos coloured]
                rcases @get_observe history deviceId entry mireds clock flush tracked stored coloured with
                  ⟨same, -⟩ | ⟨adopted, justified, -, -, -, same | same⟩
                · rw [taken] at same
                  exact absurd (by rw [learned, learned, same, stored]) changed
                · rw [taken] at same
                  exact absurd (by rw [learned, learned, same, stored]) changed
                · rw [taken] at same
                  rcases learned_withLearned stored same changed with ⟨rfl, value⟩
                  exact ⟨history.log, _, [], log, .inl rfl, justified, value⟩
              · rw [observe, if_neg coloured] at taken
                exact absurd (by rw [taken]) changed
  | restarted =>
      have loaded : next.store.get deviceId = history.preference.get? deviceId := by
        rw [← Option.some.inj taken]
        rfl
      have log : next.log = history.log ++ [.restarted] := by
        rw [← Option.some.inj taken]
      have kept := tracked.preference
      rw [← loaded] at kept
      generalize after : next.store.get deviceId = final at kept
      generalize exported : history.store.get deviceId = stored at kept
      cases kept with
      | same => exact absurd (by rw [learned, learned, exported, after]) changed
      | adds entry adopted earlier observation later isStored recorded justified =>
          rcases learned_withLearned (exported.trans isStored) after changed with ⟨rfl, value⟩
          exact ⟨earlier, observation, later ++ [.restarted], by simp [log, recorded], .inr rfl,
            justified, value⟩

/-! ## The range stays one -/

end CtHistory

/-- An entry the store takes, with an effective range. -/
def ExportEntry.Sound (entry : ExportEntry) : Prop :=
  validateEntry entry = .ok () ∧
    IsRange (effectiveCtBounds entry.options).1 (effectiveCtBounds entry.options).2

/-- An entry the store takes is sound as long as nothing has been learned. -/
theorem sound_of_unlearned {entry : ExportEntry} (valid : validateEntry entry = .ok ())
    (unlearned : ∀ side : Side, entry.options.get? side.learnedKey = none) : entry.Sound := by
  rcases pairsAllowed_of_validateOptions (validateEntry_eq_ok_iff.mp valid).2 with ⟨seed, learned⟩
  have noMin : ctBound? entry.options OPTION_CT_LEARNED_MIN_MIREDS = none := by
    rw [ctBound?, show entry.options.get? OPTION_CT_LEARNED_MIN_MIREDS = none from unlearned .min]
    rfl
  have noMax : ctBound? entry.options OPTION_CT_LEARNED_MAX_MIREDS = none := by
    rw [ctBound?, show entry.options.get? OPTION_CT_LEARNED_MAX_MIREDS = none from unlearned .max]
    rfl
  exact ⟨valid, (isRange_effective_iff seed learned).mpr ⟨by simp [noMin], by simp [noMax]⟩⟩

theorem sound_withLearned {entry : ExportEntry} {side : Side} {mireds : Int} (sound : entry.Sound)
    (valid : validateEntry (entry.withLearned side mireds) = .ok ())
    (apart : (effectiveCtBounds (entry.withLearned side mireds).options).1 <
      (effectiveCtBounds (entry.withLearned side mireds).options).2) :
    (entry.withLearned side mireds).Sound := by
  have inside := inDomain_of_validateEntry valid
  refine ⟨valid, ?_⟩
  rw [effective_withLearned entry entry.indigoDeviceId side mireds false] at apart ⊢
  cases side with
  | min => exact ⟨inside.1, apart, sound.2.2.2⟩
  | max => exact ⟨sound.2.1, apart, inside.2⟩

namespace CtHistory

variable {history : CtHistory} {deviceId : Int} {entry : ExportEntry} {side : Side} {mireds : Int}
  {clock : ClockReads} {flush : Flush}

/-- The entry of the device is sound, in the list and in the preference. -/
structure Sound (history : CtHistory) (deviceId : Int) : Prop where
  stored : ∀ entry, history.store.get deviceId = some entry → entry.Sound
  kept : ∀ entry, history.preference.get? deviceId = some entry → entry.Sound

theorem sound_observe (tracked : history.Tracked deviceId) (sound : history.Sound deviceId)
    (stored : history.store.get deviceId = some entry) :
    (history.observe entry mireds clock flush).Sound deviceId := by
  by_cases coloured : entry.role ∈ CT_ROLES
  · rcases @get_observe history deviceId entry mireds clock flush tracked stored coloured with
      ⟨same, kept⟩ | ⟨side, -, valid, apart, kept, same⟩
    · refine ⟨?_, by rw [kept]; exact sound.kept⟩
      rw [same, ← stored]
      exact sound.stored
    · have learned := sound_withLearned (sound.stored entry stored) valid apart
      constructor
      · intro other found
        rcases same with same | same
        · rw [same] at found
          exact Option.some.inj found ▸ sound.stored entry stored
        · rw [same] at found
          exact Option.some.inj found ▸ learned
      · intro other found
        rw [kept] at found
        exact Option.some.inj found ▸ learned
  · rw [observe, if_neg coloured]
    exact sound

theorem sound_step {next : CtHistory} {event : CtEvent} (tracked : history.Tracked deviceId)
    (sound : history.Sound deviceId) (taken : step deviceId history event = some next) :
    next.Sound deviceId := by
  cases event with
  | commanded mireds now =>
      obtain rfl := Option.some.inj taken
      exact ⟨sound.stored, sound.kept⟩
  | updated reading clock flush =>
      cases stored : history.store.get deviceId with
      | none =>
          simp only [step, stored, Option.some.injEq] at taken
          exact taken ▸ sound
      | some entry =>
          cases reading with
          | none =>
              simp only [step, stored, Option.some.injEq] at taken
              exact taken ▸ sound
          | some mireds =>
              simp only [step, stored, Option.some.injEq] at taken
              exact taken ▸ sound_observe tracked sound stored
  | restarted =>
      obtain rfl := Option.some.inj taken
      exact ⟨sound.kept, sound.kept⟩

/-! ## The reading lies inside -/

/-- A reading past the effective range is not recorded yet. -/
theorem not_recorded (valid : validateEntry entry = .ok ())
    (outside : (entry.observation mireds clock).outside side) :
    (entry.options.get? side.learnedKey).any (fun value => value.equalsInt mireds) = false := by
  rcases checks_of_ok (checks_of_ok (checks_of_ok (checks_of_ok
    (validateEntry_eq_ok_iff.mp valid).2).2).2).2 with ⟨-, learned⟩
  have types := boundTypes_of_validateCtPair learned
  have typed : validateBoundType side.learnedKey entry.options entry.indigoDeviceId = .ok () := by
    cases side
    · exact types.1
    · exact types.2
  cases found : entry.options.get? side.learnedKey with
  | none => rfl
  | some value =>
      rw [Option.any_some, Bool.eq_false_iff]
      intro recorded
      cases integer : value.integer? with
      | none => simp [validateBoundType, found, integer] at typed
      | some stored =>
          obtain rfl := PyValue.integer?_eq_some integer
          have same : stored = mireds := by
            simpa [PyValue.equalsInt, PyValue.number?] using recorded
          have bound : ctBound? entry.options side.learnedKey = some mireds := by
            simp [ctBound?, found, PyValue.integer?, same]
          cases side with
          | min =>
              simp [Observation.outside, ExportEntry.observation, effectiveCtBounds, ctSide,
                show ctBound? entry.options OPTION_CT_LEARNED_MIN_MIREDS = some mireds from bound] at outside
          | max =>
              simp [Observation.outside, ExportEntry.observation, effectiveCtBounds, ctSide,
                show ctBound? entry.options OPTION_CT_LEARNED_MAX_MIREDS = some mireds from bound] at outside

/-- A reading past the range of a sound entry leads to a range when it is in the domain. -/
theorem isRange_of_outside (sound : entry.Sound) (inside : InDomain mireds)
    (outside : (entry.observation mireds clock).outside side) :
    IsRange (effectiveCtBounds (entry.withLearned side mireds).options).1
      (effectiveCtBounds (entry.withLearned side mireds).options).2 := by
  rw [effective_withLearned entry entry.indigoDeviceId side mireds false]
  rcases sound.2 with ⟨low, apart, high⟩
  cases side with
  | min => exact ⟨inside.1, lt_trans outside apart, high⟩
  | max => exact ⟨low, lt_trans apart outside, inside.2⟩

/-- A reading past the range is adopted, when it is in the domain and its write is saved. -/
theorem get_adopt_of_outside (sound : entry.Sound) (coloured : entry.role ∈ CT_ROLES)
    (stored : history.store.get deviceId = some entry) (own : entry.indigoDeviceId = deviceId)
    (inside : InDomain mireds) (outside : (entry.observation mireds clock).outside side) :
    (history.adopt .saved ⟨deviceId, side, mireds, false⟩).store.get deviceId =
      some (entry.withLearned side mireds) := by
  have range := isRange_of_outside sound inside outside
  have valid := validateEntry_withLearned sound.1 coloured range
  have apart := range.2.1
  rw [effective_withLearned entry deviceId side mireds false] at apart
  have adopted : Plugin.adopt ⟨deviceId, side, mireds, false⟩ (some entry) =
      .ok (entry.withLearned side mireds) := by
    simp only [Plugin.adopt, Bool.false_eq_true, false_and, if_false, not_recorded sound.1 outside,
      not_le.mpr apart]
    rfl
  have lands : ExportStore.lands .saved (entry.withLearned side mireds) = true := by
    simp [ExportStore.lands, valid, Except.isOk, Except.toBool]
  simp only [adopt, stored, adopted, SharedStore.get_upsert, lands, true_and]
  exact if_pos own.symm

/-- An observation of a coloured light is accepted when it is in the range already, or when
it is in the domain and its write is saved. -/
def Accepted (entry : ExportEntry) (mireds : Int) (flush : Flush) : Prop :=
  entry.role ∈ CT_ROLES ∧
    ((effectiveCtBounds entry.options).1 ≤ mireds ∧ mireds ≤ (effectiveCtBounds entry.options).2 ∨
      InDomain mireds ∧ flush = .saved)

theorem inside_observe (tracked : history.Tracked deviceId) (sound : history.Sound deviceId)
    (stored : history.store.get deviceId = some entry) (accepted : Accepted entry mireds flush) :
    ∃ after, (history.observe entry mireds clock flush).store.get deviceId = some after ∧
      (effectiveCtBounds after.options).1 ≤ mireds ∧ mireds ≤ (effectiveCtBounds after.options).2 := by
  rcases accepted with ⟨coloured, reached⟩
  have own := tracked.keyed entry stored
  by_cases within : (effectiveCtBounds entry.options).1 ≤ mireds ∧
      mireds ≤ (effectiveCtBounds entry.options).2
  · rcases @get_observe history deviceId entry mireds clock flush tracked stored coloured with
      ⟨same, -⟩ | ⟨side, -, -, apart, -, same | same⟩
    · exact ⟨entry, same, within⟩
    · exact ⟨entry, same, within⟩
    · refine ⟨_, same, ?_⟩
      rw [effective_withLearned entry deviceId side mireds false]
      cases side with
      | min => exact ⟨le_rfl, within.2⟩
      | max => exact ⟨within.1, le_rfl⟩
  · rcases reached.resolve_left within with ⟨inside, rfl⟩
    have past : ∃ side, (entry.observation mireds clock).outside side ∧
        (history.learner.observeLocked entry mireds clock).2 = some ⟨deviceId, side, mireds, false⟩ := by
      rw [not_and_or, not_le, not_le] at within
      unfold CtLearner.observeLocked
      dsimp only
      by_cases low : mireds < (effectiveCtBounds entry.options).1
      · exact ⟨.min, low, by rw [if_pos low, own]⟩
      · have high := within.resolve_left low
        exact ⟨.max, high, by rw [if_neg low, if_pos high, own]⟩
    rcases past with ⟨side, outside, asked⟩
    have after : (history.observe entry mireds clock .saved).store.get deviceId =
        some (entry.withLearned side mireds) := by
      rw [observe, if_pos coloured]
      dsimp only
      rw [asked]
      exact get_adopt_of_outside (sound.stored entry stored) coloured stored own inside outside
    refine ⟨_, after, ?_⟩
    have range := isRange_of_outside (sound.stored entry stored) inside outside
    have ordered := range.2.1
    rw [effective_withLearned entry deviceId side mireds false] at ordered ⊢
    cases side with
    | min => exact ⟨le_rfl, ordered.le⟩
    | max => exact ⟨ordered.le, le_rfl⟩

/-! ## What is learned is sound -/

/-- In every run a learned bound changes only to a reading past the range of the time, or
to the second of two shortfalls of one value that answer two commands; at a restart only
to such a reading whose write the preference kept.  From a sound entry the effective range
stays one inside the domain, and an accepted reading lies inside it. -/
theorem learning_sound {listed : List ExportEntry} {events : List CtEvent}
    (run : Run (step deviceId) (initial listed) events history) :
    (∀ event next side, step deviceId history event = some next →
      next.learned deviceId side ≠ history.learned deviceId side →
        ∃ earlier observation later, next.log = earlier ++ .observed observation :: later ∧
          (later = [] ∨ event = .restarted) ∧ Justifies earlier observation side ∧
          next.learned deviceId side = some (.int observation.mireds)) ∧
      ((∀ entry, (initial listed).store.get deviceId = some entry → entry.Sound) →
        (∀ entry, history.store.get deviceId = some entry →
          IsRange (effectiveCtBounds entry.options).1 (effectiveCtBounds entry.options).2) ∧
        ∀ entry mireds clock flush next, history.store.get deviceId = some entry →
          step deviceId history (.updated (some mireds) clock flush) = some next →
            Accepted entry mireds flush →
              ∃ after, next.store.get deviceId = some after ∧
                (effectiveCtBounds after.options).1 ≤ mireds ∧
                mireds ≤ (effectiveCtBounds after.options).2) := by
  have tracked : history.Tracked deviceId := by
    apply @RunWhere.invariant _ _ _ _ _ (fun history => history.Tracked deviceId) _ _ _ _ run
    · exact tracked_initial listed deviceId
    · exact fun _ _ _ tracked _ taken => tracked_step tracked taken
  constructor
  · intro event next side taken changed
    exact learned_step tracked taken changed
  · intro start
    have both : history.Tracked deviceId ∧ history.Sound deviceId := by
      apply @RunWhere.invariant _ _ _ _ _
        (fun history => history.Tracked deviceId ∧ history.Sound deviceId) _ _ _ _ run
      · exact ⟨tracked_initial listed deviceId, start, start⟩
      · rintro state event next ⟨tracked, sound⟩ - taken
        exact ⟨tracked_step tracked taken, sound_step tracked sound taken⟩
    constructor
    · exact fun entry stored => (both.2.stored entry stored).2
    · intro entry mireds clock flush next stored taken accepted
      simp only [step, stored, Option.some.injEq] at taken
      exact taken ▸ inside_observe tracked both.2 stored accepted

/-- Light 7 is asked for 426 mireds twice, and stops at 400 the first time. -/
def clampedLight : List CtEvent :=
  [.commanded 426 0, .updated (some 400) ⟨1, 1⟩ .saved, .updated none ⟨2, 2⟩ .saved,
    .commanded 426 3]

/-- The light stops at 400 again. -/
def stopsAgain : CtEvent := .updated (some 400) ⟨4, 4⟩ .saved

/-- The history of light 7 before that. -/
def clamped : CtHistory :=
  (follow (step 7) (fun _ _ => True) (initial [SharedStore.ctLight 7]) clampedLight).getD
    (initial [SharedStore.ctLight 7])

/-- And after it. -/
def stopped : CtHistory := (step 7 clamped stopsAgain).getD clamped

private theorem some_getD {α : Type} {found : Option α} (isSome : found.isSome = true) (other : α) :
    found = some (found.getD other) := by
  cases found with
  | none => cases isSome
  | some value => rfl

theorem learning_sound_clamped :
    (∃ earlier observation later,
        stopped.log = earlier ++ .observed observation :: later ∧
        (later = [] ∨ stopsAgain = .restarted) ∧ Justifies earlier observation .max ∧
        stopped.learned 7 .max = some (.int observation.mireds)) ∧
      ∃ after, stopped.store.get 7 = some after ∧
        (effectiveCtBounds after.options).1 ≤ 400 ∧ 400 ≤ (effectiveCtBounds after.options).2 := by
  have run : Run (step 7) (initial [SharedStore.ctLight 7]) clampedLight clamped :=
    runWhere_of_follow (some_getD (by decide +kernel) _)
  have start : ∀ entry, (initial [SharedStore.ctLight 7]).store.get 7 = some entry → entry.Sound := by
    intro entry stored
    obtain rfl : SharedStore.ctLight 7 = entry := Option.some.inj stored
    exact sound_of_unlearned rfl fun side => by cases side <;> rfl
  have taken : step 7 clamped stopsAgain = some stopped :=
    some_getD (by decide +kernel) _
  have exported := @some_getD _ (clamped.store.get 7) (by decide +kernel)
    (SharedStore.ctLight 7)
  constructor
  · exact (learning_sound run).1 stopsAgain _ .max taken (by decide +kernel)
  · exact ((learning_sound run).2 start).2 _ 400 ⟨4, 4⟩ .saved _ exported taken
      ⟨by decide +kernel, .inl (by decide +kernel)⟩

end CtHistory

end IndigoMatter.Plugin
