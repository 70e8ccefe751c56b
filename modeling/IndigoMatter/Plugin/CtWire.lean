import IndigoMatter.Bridge.Endpoints
import IndigoMatter.Plugin.ExportStore

/-!
# Colour-temperature bounds on the wire

An entry's stored bounds are checked in pairs when the store takes it, and each
side of the pair that is sent is chosen on its own.  The node takes the pair it
is sent only when it is a range.  The two checks agree as long as a learned side
that stands alone does not cross the side it is sent with.
-/

namespace IndigoMatter.Plugin

open IndigoMatter.Library
open IndigoMatter.Bridge

/-- The options struct of a spec, as the node parses it. -/
def wireStruct (loads : String → Json) (options : Options) : Struct :=
  (options.mapValues fun _ value => value.toJson loads).entries

theorem property_entries (map : InsertionMap String Json) (name : String) :
    Json.property map.entries name = map.get? name := by
  let reversed : InsertionMap String Json :=
    ⟨map.entries.reverse, by simpa [List.map_reverse] using map.nodupKeys⟩
  change reversed.get? name = map.get? name
  apply Option.ext
  intro value
  rw [← InsertionMap.mem_entries_iff, ← InsertionMap.mem_entries_iff]
  exact List.mem_reverse

theorem property_wireStruct (loads : String → Json) (options : Options) (name : String) :
    Json.property (wireStruct loads options) name =
      (options.get? name).map (PyValue.toJson loads) := by
  rw [wireStruct, property_entries, InsertionMap.get?_mapValues]

@[simp]
theorem miredsInt?_toJson_int (loads : String → Json) (value : Int) :
    miredsInt? (some ((PyValue.int value).toJson loads)) = some value := by
  simp [PyValue.toJson, miredsInt?]

/-- A range inside the physical domain. -/
def IsRange (low high : Int) : Prop :=
  GENERIC_MIN_MIREDS ≤ low ∧ low < high ∧ high ≤ GENERIC_MAX_MIREDS

instance (low high : Int) : Decidable (IsRange low high) :=
  inferInstanceAs (Decidable (_ ∧ _ ∧ _))

/-! ## The pair that is sent -/

theorem get?_wireOptions_min {options : Options} (stored : hasStoredCtBounds options = true) :
    (wireOptions options).get? OPTION_CT_MIN_MIREDS =
      some (.int (effectiveCtBounds options).1) := by
  have different : OPTION_CT_MIN_MIREDS ≠ OPTION_CT_MAX_MIREDS := by decide
  simp [wireOptions, stored, InsertionMap.get?_set, different]

theorem get?_wireOptions_max {options : Options} (stored : hasStoredCtBounds options = true) :
    (wireOptions options).get? OPTION_CT_MAX_MIREDS =
      some (.int (effectiveCtBounds options).2) := by
  simp [wireOptions, stored]

/-- Nothing is sent under a stored key when no bound is stored. -/
theorem get?_wireOptions_of_unstored {options : Options}
    (unstored : hasStoredCtBounds options = false) (key : String) (owned : key ∈ STORED_KEYS) :
    (wireOptions options).get? key = none := by
  simp [wireOptions, unstored, owned]

/-- The node reads back the effective pair, and keeps it when it is a range. -/
theorem extractCtBounds_wireOptions (loads : String → Json) (options : Options)
    (deviceId : Int) :
    let min := (PyValue.int (effectiveCtBounds options).1).toJson loads
    let max := (PyValue.int (effectiveCtBounds options).2).toJson loads
    extractCtBounds (wireStruct loads (wireOptions options)) deviceId =
      if hasStoredCtBounds options then
        if IsRange (effectiveCtBounds options).1 (effectiveCtBounds options).2 then
          (some ⟨(effectiveCtBounds options).1, (effectiveCtBounds options).2⟩, none)
        else (none, some ⟨some min, some max, deviceId⟩)
      else (none, none) := by
  intro min max
  have minKey : "ctMinMireds" = OPTION_CT_MIN_MIREDS := rfl
  have maxKey : "ctMaxMireds" = OPTION_CT_MAX_MIREDS := rfl
  cases stored : hasStoredCtBounds options with
  | false =>
      have noMin := get?_wireOptions_of_unstored stored OPTION_CT_MIN_MIREDS (by decide)
      have noMax := get?_wireOptions_of_unstored stored OPTION_CT_MAX_MIREDS (by decide)
      simp only [extractCtBounds, property_wireStruct, minKey, maxKey, noMin, noMax]
      rfl
  | true =>
      simp only [extractCtBounds, property_wireStruct, minKey, maxKey,
        get?_wireOptions_min stored, get?_wireOptions_max stored, Option.map_some,
        miredsInt?_toJson_int]
      rfl

/-! ## What the store accepts -/

/-- A bound inside the declared domain. -/
def InDomain (value : Int) : Prop := GENERIC_MIN_MIREDS ≤ value ∧ value ≤ GENERIC_MAX_MIREDS

/-- What the check of a pair promises of its two sides. -/
def PairAllowed (seedPair : Bool) : Option Int → Option Int → Prop
  | some low, some high => IsRange low high
  | some value, none => seedPair = false ∧ InDomain value
  | none, some value => seedPair = false ∧ InDomain value
  | none, none => True

theorem inDomain_of_lone {minKey maxKey key : String} {seedPair : Bool} {value deviceId : Int}
    (checked : validateCtPair.lone minKey maxKey seedPair deviceId key value = .ok ()) :
    seedPair = false ∧ InDomain value := by
  unfold validateCtPair.lone at checked
  split at checked
  · exact absurd checked (by simp)
  · rename_i lone
    split at checked
    · rename_i inside
      exact ⟨by simpa using lone, inside⟩
    · exact absurd checked (by simp)

theorem pairAllowed {minKey maxKey : String} {seedPair : Bool} {options : Options}
    {role : Role} {deviceId : Int}
    (checked : validateCtPair minKey maxKey seedPair options role deviceId = .ok ()) :
    PairAllowed seedPair (ctBound? options minKey) (ctBound? options maxKey) := by
  unfold validateCtPair at checked
  split at checked
  · rename_i absent
    have minAbsent : options.get? minKey = none := by
      simp_all [InsertionMap.has]
    have maxAbsent : options.get? maxKey = none := by
      simp_all [InsertionMap.has]
    simp [ctBound?, minAbsent, maxAbsent, PairAllowed]
  · split at checked
    · exact absurd checked (by simp)
    · -- past the two type checks, the sides that are there decide
      cases minChecked : validateBoundType minKey options deviceId with
      | error error => simp [minChecked, bind, Except.bind] at checked
      | ok _ =>
          cases maxChecked : validateBoundType maxKey options deviceId with
          | error error => simp [minChecked, maxChecked, bind, Except.bind] at checked
          | ok _ =>
              simp only [minChecked, maxChecked, bind, Except.bind] at checked
              split at checked
              · rename_i low high lowStored highStored
                rw [lowStored, highStored]
                split at checked
                · assumption
                · exact absurd checked (by simp)
              · rename_i value lowStored highStored
                rw [lowStored, highStored]
                exact inDomain_of_lone checked
              · rename_i value lowStored highStored
                rw [lowStored, highStored]
                exact inDomain_of_lone checked
              · rename_i lowStored highStored
                rw [lowStored, highStored]
                trivial

/-- A check after another is reached only when the first one passes. -/
theorem checks_of_ok {first second : Except EntryError Unit}
    (checked : (do first; second) = .ok ()) : first = .ok () ∧ second = .ok () := by
  cases passed : first with
  | error error => simp [passed, bind, Except.bind] at checked
  | ok _ => exact ⟨rfl, by simpa [passed, bind, Except.bind] using checked⟩

/-- Options the store takes have both of their pairs allowed. -/
theorem pairsAllowed_of_validateOptions {options : Options} {role : Role} {deviceId : Int}
    (valid : validateOptions options role deviceId = .ok ()) :
    PairAllowed true (ctBound? options OPTION_CT_MIN_MIREDS)
        (ctBound? options OPTION_CT_MAX_MIREDS) ∧
      PairAllowed false (ctBound? options OPTION_CT_LEARNED_MIN_MIREDS)
        (ctBound? options OPTION_CT_LEARNED_MAX_MIREDS) := by
  have afterInvert := (checks_of_ok valid).2
  have afterStateKey := (checks_of_ok afterInvert).2
  have bounds := checks_of_ok (checks_of_ok afterStateKey).2
  exact ⟨pairAllowed bounds.1, pairAllowed bounds.2⟩

/-! ## The two checks together -/

/-- A learned side that stands alone stays on its own side of what it is sent
with: the seed's other side, or the end of the domain. -/
structure LoneSidesFit (options : Options) : Prop where
  min : ∀ low, ctBound? options OPTION_CT_LEARNED_MIN_MIREDS = some low →
    ctBound? options OPTION_CT_LEARNED_MAX_MIREDS = none →
    low < (ctBound? options OPTION_CT_MAX_MIREDS).getD GENERIC_MAX_MIREDS
  max : ∀ high, ctBound? options OPTION_CT_LEARNED_MAX_MIREDS = some high →
    ctBound? options OPTION_CT_LEARNED_MIN_MIREDS = none →
    (ctBound? options OPTION_CT_MIN_MIREDS).getD GENERIC_MIN_MIREDS < high

/-- The seed pair, filled up with the ends of the domain, is a range. -/
theorem isRange_seed {low high : Option Int} (seed : PairAllowed true low high) :
    IsRange (low.getD GENERIC_MIN_MIREDS) (high.getD GENERIC_MAX_MIREDS) := by
  cases low with
  | none =>
      cases high with
      | none => decide
      | some high => exact absurd seed.1 (by simp)
  | some low =>
      cases high with
      | none => exact absurd seed.1 (by simp)
      | some high => exact seed

/-- Of the pairs that are allowed, the effective one is a range exactly when the
lone learned sides fit. -/
theorem isRange_effective_iff {options : Options}
    (seed : PairAllowed true (ctBound? options OPTION_CT_MIN_MIREDS)
      (ctBound? options OPTION_CT_MAX_MIREDS))
    (learned : PairAllowed false (ctBound? options OPTION_CT_LEARNED_MIN_MIREDS)
      (ctBound? options OPTION_CT_LEARNED_MAX_MIREDS)) :
    IsRange (effectiveCtBounds options).1 (effectiveCtBounds options).2 ↔
      LoneSidesFit options := by
  have seeded := isRange_seed seed
  cases low : ctBound? options OPTION_CT_LEARNED_MIN_MIREDS with
  | none =>
      cases high : ctBound? options OPTION_CT_LEARNED_MAX_MIREDS with
      | none =>
          have fits : LoneSidesFit options := ⟨by simp [low], by simp [high]⟩
          simpa [effectiveCtBounds, ctSide, low, high, fits] using seeded
      | some learnedMax =>
          rw [low, high] at learned
          have inside : InDomain learnedMax := learned.2
          have range : IsRange (effectiveCtBounds options).1 (effectiveCtBounds options).2 ↔
              (ctBound? options OPTION_CT_MIN_MIREDS).getD GENERIC_MIN_MIREDS < learnedMax := by
            simp only [effectiveCtBounds, ctSide, low, high, Option.none_or, Option.some_or,
              Option.getD_some]
            exact ⟨fun range => range.2.1, fun below => ⟨seeded.1, below, inside.2⟩⟩
          rw [range]
          exact ⟨fun below => ⟨by simp [low], by simpa [high, low] using below⟩,
            fun fits => fits.max learnedMax high low⟩
  | some learnedMin =>
      cases high : ctBound? options OPTION_CT_LEARNED_MAX_MIREDS with
      | none =>
          rw [low, high] at learned
          have inside : InDomain learnedMin := learned.2
          have range : IsRange (effectiveCtBounds options).1 (effectiveCtBounds options).2 ↔
              learnedMin < (ctBound? options OPTION_CT_MAX_MIREDS).getD GENERIC_MAX_MIREDS := by
            simp only [effectiveCtBounds, ctSide, low, high, Option.none_or, Option.some_or,
              Option.getD_some]
            exact ⟨fun range => range.2.1, fun above => ⟨inside.1, above, seeded.2.2⟩⟩
          rw [range]
          exact ⟨fun above => ⟨by simpa [high, low] using above, by simp [high, low]⟩,
            fun fits => fits.min learnedMin low high⟩
      | some learnedMax =>
          rw [low, high] at learned
          have fits : LoneSidesFit options := ⟨by simp [high], by simp [low]⟩
          have range : IsRange learnedMin learnedMax := learned
          simpa [effectiveCtBounds, ctSide, low, high, fits] using range

/-- The node takes what a set of stored options puts on the wire: the effective
pair when a bound is stored, and never with a warning. -/
def NodeAccepts (loads : String → Json) (options : Options) (deviceId : Int) : Prop :=
  let read := extractCtBounds (wireStruct loads (wireOptions options)) deviceId
  (hasStoredCtBounds options = true →
      read.1 = some ⟨(effectiveCtBounds options).1, (effectiveCtBounds options).2⟩) ∧
    read.2 = none

/-- A lone learned side is stored under a key that puts the pair on the wire. -/
theorem loneSidesFit_of_unstored {options : Options}
    (unstored : hasStoredCtBounds options = false) : LoneSidesFit options := by
  have absent : ∀ key ∈ STORED_KEYS, ctBound? options key = none := by
    intro key owned
    have missing : options.get? key = none :=
      InsertionMap.get?_eq_none_iff.mpr (by simpa using List.any_eq_false.mp unstored key owned)
    simp [ctBound?, missing]
  constructor
  · intro low stored
    rw [absent _ (by decide)] at stored
    exact absurd stored (by simp)
  · intro high stored
    rw [absent _ (by decide)] at stored
    exact absurd stored (by simp)

/-- Of the options the store takes, the node takes exactly those whose lone
learned sides fit. -/
theorem nodeAccepts_iff (loads : String → Json) {options : Options} {role : Role}
    {deviceId : Int} (valid : validateOptions options role deviceId = .ok ()) :
    NodeAccepts loads options deviceId ↔ LoneSidesFit options := by
  rcases pairsAllowed_of_validateOptions valid with ⟨seed, learned⟩
  have fitting := isRange_effective_iff seed learned
  unfold NodeAccepts
  rw [extractCtBounds_wireOptions]
  cases stored : hasStoredCtBounds options with
  | false => simp [loneSidesFit_of_unstored stored]
  | true =>
      by_cases range : IsRange (effectiveCtBounds options).1 (effectiveCtBounds options).2
      · simp [range, fitting.mp range]
      · simp [range, mt fitting.mpr range]

/-- A seed of (153, 454) and a learned cool limit of 200. -/
def seedAndLearnedMin : Options :=
  InsertionMap.ofList [(OPTION_CT_MIN_MIREDS, .int 153), (OPTION_CT_MAX_MIREDS, .int 454),
    (OPTION_CT_LEARNED_MIN_MIREDS, .int 200)]

theorem nodeAccepts_seedAndLearnedMin :
    NodeAccepts (fun _ => .null) seedAndLearnedMin 12 := by
  have valid : validateOptions seedAndLearnedMin .colorTemperatureLight 12 = .ok () := rfl
  apply (nodeAccepts_iff _ valid).mpr
  constructor
  · intro low stored _
    cases stored
    decide
  · intro high stored _
    cases stored

/-- A learned cool limit of 400 under a seed of (153, 300): the store takes the
entry, and the node is sent (400, 300). -/
def crossingLearnedMin : Options :=
  InsertionMap.ofList [(OPTION_CT_MIN_MIREDS, .int 153), (OPTION_CT_MAX_MIREDS, .int 300),
    (OPTION_CT_LEARNED_MIN_MIREDS, .int 400)]

theorem crossing_pair_is_sent :
    ¬ ∀ (loads : String → Json) (options : Options) (role : Role) (deviceId : Int),
      validateOptions options role deviceId = .ok () → NodeAccepts loads options deviceId := by
  intro accepted
  have taken := (accepted (fun _ => .null) crossingLearnedMin .colorTemperatureLight 12 rfl).2
  rw [extractCtBounds_wireOptions] at taken
  have stored : hasStoredCtBounds crossingLearnedMin = true := by decide
  have crossed : ¬ IsRange (effectiveCtBounds crossingLearnedMin).1
      (effectiveCtBounds crossingLearnedMin).2 := by decide
  simp [stored, crossed] at taken

end IndigoMatter.Plugin
