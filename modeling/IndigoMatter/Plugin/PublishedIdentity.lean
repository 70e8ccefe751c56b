import IndigoMatter.Plugin.ExportWriters
import IndigoMatter.Bridge.IdentityText

/-!
# Which identity an export publishes

The plugin's twin of the parser of published identities, the next generation of
an identity, and the walk of the export dialog past the generations that another
entry of the store claims.

The twins accept the same texts.  They differ in the generation they read out of
a long string of digits, which the plugin knows exactly and the node as a double.
-/

namespace IndigoMatter.Plugin

open IndigoMatter.Library
open IndigoMatter.Bridge (PublishedId PUBLISHED_ID_MAX PUBLISHED_ID_PREFIX MAX_SAFE_INTEGER
  parsePublishedId parseSigned spanDigits digitsValue readIdentity readIdentity_eq_some_iff
  keepsFirst_id keepsFirst_nearestDouble Spelling)

/-- The `(?:~(\d+))?\Z` tail, with the generation as Python reads it. -/
def exactGeneration (text : List Char) : Option Nat :=
  match text with
  | [] => some 1
  | '~' :: tail =>
      let (digits, rest) := spanDigits tail
      let generation := digitsValue digits
      if digits ≠ [] ∧ rest = [] ∧ 2 ≤ generation then some generation else none
  | _ => none

/-- `parse_published_id`. -/
def parsePublished (value : String) : Option PublishedId :=
  if PUBLISHED_ID_MAX < value.length then none
  else if PUBLISHED_ID_PREFIX.toList.isPrefixOf value.toList then
    match parseSigned (value.toList.drop PUBLISHED_ID_PREFIX.length) with
    | none => none
    | some (deviceId, rest) =>
        if MAX_SAFE_INTEGER < deviceId.natAbs then none
        else (exactGeneration rest).map fun generation => ⟨deviceId, generation⟩
  else none

/-- `next_generation`; it raises on an unlawful identity. -/
def nextGeneration (publishedAs : String) : Option String :=
  (parsePublished publishedAs).map fun parsed =>
    publishedIdFor parsed.deviceId (parsed.generation + 1)

/-! ## The two parsers -/

theorem parsePublished_eq (value : String) : parsePublished value = readIdentity id value := rfl

/-- The plugin accepts a text as an identity just when the node does. -/
theorem isSome_parsePublished (value : String) :
    (parsePublished value).isSome = (parsePublishedId value).isSome := by
  rw [Bool.eq_iff_iff, parsePublished_eq, Bridge.parsePublishedId_eq, Option.isSome_iff_exists,
    Option.isSome_iff_exists]
  simp only [readIdentity_eq_some_iff keepsFirst_id, readIdentity_eq_some_iff
    keepsFirst_nearestDouble]
  constructor
  · rintro ⟨_, fits, spelling, lawful, text, -⟩
    exact ⟨_, fits, spelling, lawful, text, rfl⟩
  · rintro ⟨_, fits, spelling, lawful, text, -⟩
    exact ⟨_, fits, spelling, lawful, text, rfl⟩

theorem toList_publishedIdFor (deviceId : Int) (generation : Nat) :
    (publishedIdFor deviceId generation).toList = (Spelling.plain deviceId generation).text := by
  rw [Spelling.text_plain]
  unfold publishedIdFor
  split
  · rw [String.toList_append, List.append_nil]
  · simp only [String.toList_append, List.append_assoc]
    rfl

/-- Within the limits, an identity is read back as what it was made from. -/
theorem parsePublished_publishedIdFor {deviceId : Int} {generation : Nat}
    (fits : (publishedIdFor deviceId generation).length ≤ PUBLISHED_ID_MAX)
    (safe : deviceId.natAbs ≤ MAX_SAFE_INTEGER) (positive : 1 ≤ generation) :
    parsePublished (publishedIdFor deviceId generation) = some ⟨deviceId, generation⟩ := by
  rw [parsePublished_eq, readIdentity_eq_some_iff keepsFirst_id]
  refine ⟨fits, .plain deviceId generation, Spelling.lawful_plain safe positive, ?_, ?_⟩
  · exact (toList_publishedIdFor deviceId generation).symm
  · rw [Spelling.deviceId_plain, Spelling.generation_plain]
    rfl

theorem parsePublished_eq_some {value : String} {parsed : PublishedId}
    (lawful : parsePublished value = some parsed) :
    parsed.deviceId.natAbs ≤ MAX_SAFE_INTEGER ∧ 1 ≤ parsed.generation := by
  rw [parsePublished_eq, readIdentity_eq_some_iff keepsFirst_id] at lawful
  rcases lawful with ⟨-, spelling, lawful, -, rfl⟩
  constructor
  · rw [spelling.natAbs_deviceId]
    exact lawful.safe
  · exact lawful.one_le_generation

/-- What follows a lawful identity is its next generation, unless it is too long. -/
theorem nextGeneration_spec {identity next : String}
    (following : nextGeneration identity = some next) :
    ∃ parsed, parsePublished identity = some parsed ∧
      (parsePublished next = none ∨
        parsePublished next = some ⟨parsed.deviceId, parsed.generation + 1⟩) := by
  rcases Option.map_eq_some_iff.mp following with ⟨parsed, lawful, rfl⟩
  refine ⟨parsed, lawful, ?_⟩
  rcases parsePublished_eq_some lawful with ⟨safe, positive⟩
  by_cases fits : (publishedIdFor parsed.deviceId (parsed.generation + 1)).length ≤
      PUBLISHED_ID_MAX
  · exact .inr (parsePublished_publishedIdFor fits safe (Nat.le_add_left 1 _))
  · left
    unfold parsePublished
    rw [if_pos (Nat.lt_of_not_le fits)]

/-! ## The walk past claimed generations -/

/-- The identity an entry publishes: its own, or by default that of its device. -/
def ExportEntry.identity (entry : ExportEntry) : String :=
  match entry.publishedAs with
  | some publishedAs =>
      if publishedAs = "" then publishedIdFor entry.indigoDeviceId 1 else publishedAs
  | none => publishedIdFor entry.indigoDeviceId 1

/-- `_identity_claimant`: another entry that publishes an identity. -/
def identityClaimant (listed : List ExportEntry) (uniqueId : String) (deviceId : Int) :
    Option Int :=
  (listed.find? fun entry =>
    decide (entry.indigoDeviceId ≠ deviceId ∧ entry.identity = uniqueId)).map
      ExportEntry.indigoDeviceId

/-- How the walk can fail: `next_generation` raises on an unlawful identity. -/
inductive WalkError
  | unlawful (identity : String)
  | outOfFuel
deriving DecidableEq

/-- `_first_unclaimed_identity`, in at most the given number of steps. -/
def firstUnclaimedIdentity (listed : List ExportEntry) (deviceId : Int) :
    Nat → String → Except WalkError String
  | fuel, identity =>
      match identityClaimant listed identity deviceId with
      | none => .ok identity
      | some _ =>
          match nextGeneration identity with
          | none => .error (.unlawful identity)
          | some next =>
              match fuel with
              | 0 => .error .outOfFuel
              | fuel + 1 => firstUnclaimedIdentity listed deviceId fuel next

/-- `_resolve_published_identity`. -/
def resolvePublishedIdentity (listed : List ExportEntry) (deviceId : Int)
    (previous : Option ExportEntry) (role : Bridge.Role) : Except WalkError (Option String) :=
  match previous with
  | some previous =>
      if previous.role ≠ role then
        match nextGeneration previous.identity with
        | none => .error (.unlawful previous.identity)
        | some bumped => (firstUnclaimedIdentity listed deviceId listed.length bumped).map some
      else .ok previous.publishedAs
  | none =>
      (firstUnclaimedIdentity listed deviceId listed.length (publishedIdFor deviceId 1)).map
        fun resolved => if resolved = publishedIdFor deviceId 1 then none else some resolved

theorem identityClaimant_eq_none {listed : List ExportEntry} {uniqueId : String}
    {deviceId : Int} :
    identityClaimant listed uniqueId deviceId = none ↔
      ∀ entry ∈ listed, entry.indigoDeviceId ≠ deviceId → entry.identity ≠ uniqueId := by
  simp [identityClaimant]

/-- The walk ends at an identity that no other entry publishes. -/
theorem firstUnclaimedIdentity_unclaimed {listed : List ExportEntry} {deviceId : Int}
    {fuel : Nat} {identity resolved : String}
    (walked : firstUnclaimedIdentity listed deviceId fuel identity = .ok resolved) :
    ∀ entry ∈ listed, entry.indigoDeviceId ≠ deviceId → entry.identity ≠ resolved := by
  induction fuel generalizing identity with
  | zero =>
      unfold firstUnclaimedIdentity at walked
      split at walked
      · rename_i unclaimed
        obtain rfl := Except.ok.inj walked
        exact identityClaimant_eq_none.mp unclaimed
      · split at walked <;> cases walked
  | succ fuel ih =>
      unfold firstUnclaimedIdentity at walked
      split at walked
      · rename_i unclaimed
        obtain rfl := Except.ok.inj walked
        exact identityClaimant_eq_none.mp unclaimed
      · split at walked
        · cases walked
        · exact ih walked

/-- The entries that publish a generation of a device, from a given one on. -/
def claimsFrom (listed : List ExportEntry) (parsed : PublishedId) : List ExportEntry :=
  listed.filter fun entry => (parsePublished entry.identity).any fun other =>
    decide (other.deviceId = parsed.deviceId ∧ parsed.generation ≤ other.generation)

/-- Past a generation that is claimed, there are fewer claims. -/
theorem claimsFrom_next_lt {listed : List ExportEntry} {entry : ExportEntry}
    {parsed : PublishedId} (claims : entry ∈ listed)
    (published : parsePublished entry.identity = some parsed) :
    (claimsFrom listed ⟨parsed.deviceId, parsed.generation + 1⟩).length <
      (claimsFrom listed parsed).length := by
  have later : claimsFrom listed ⟨parsed.deviceId, parsed.generation + 1⟩ =
      (claimsFrom listed parsed).filter fun entry => (parsePublished entry.identity).any
        fun other => decide (other.deviceId = parsed.deviceId ∧
          parsed.generation + 1 ≤ other.generation) := by
    rw [claimsFrom, claimsFrom, List.filter_filter]
    apply List.filter_congr
    intro other _
    cases parsePublished other.identity with
    | none => rfl
    | some read =>
        rw [Bool.eq_iff_iff]
        simp only [Option.any_some, decide_eq_true_eq, Bool.and_eq_true]
        omega
  rw [later, List.length_filter_lt_length_iff_exists]
  refine ⟨entry, ?_, ?_⟩
  · rw [claimsFrom, List.mem_filter]
    exact ⟨claims, by simp [published]⟩
  · simp [published]

/-- As many steps as there are claims are enough, so the walk of the source ends. -/
theorem firstUnclaimedIdentity_ends {listed : List ExportEntry} {deviceId : Int} {fuel : Nat}
    {identity : String}
    (enough : ∀ parsed, parsePublished identity = some parsed →
      (claimsFrom listed parsed).length ≤ fuel) :
    firstUnclaimedIdentity listed deviceId fuel identity ≠ .error .outOfFuel := by
  induction fuel generalizing identity with
  | zero =>
      unfold firstUnclaimedIdentity
      split
      · intro ended
        cases ended
      · rename_i claimant claimed
        split
        · intro ended
          cases ended
        · rename_i next following
          rcases nextGeneration_spec following with ⟨parsed, lawful, -⟩
          rcases Option.map_eq_some_iff.mp claimed with ⟨entry, found, -⟩
          have claims := List.mem_of_find?_eq_some found
          have publishes := List.find?_some found
          simp only [decide_eq_true_eq] at publishes
          have fewer := claimsFrom_next_lt claims (publishes.2 ▸ lawful)
          have none := enough parsed lawful
          omega
  | succ fuel ih =>
      unfold firstUnclaimedIdentity
      split
      · intro ended
        cases ended
      · rename_i claimant claimed
        split
        · intro ended
          cases ended
        · rename_i next following
          dsimp only
          apply ih
          intro parsed' lawful'
          rcases nextGeneration_spec following with ⟨parsed, lawful, unlawful | bumped⟩
          · exact absurd (unlawful.symm.trans lawful') (by simp)
          · obtain rfl := Option.some.inj (bumped.symm.trans lawful')
            rcases Option.map_eq_some_iff.mp claimed with ⟨entry, found, -⟩
            have claims := List.mem_of_find?_eq_some found
            have publishes := List.find?_some found
            simp only [decide_eq_true_eq] at publishes
            have fewer := claimsFrom_next_lt claims (publishes.2 ▸ lawful)
            have bound := enough parsed lawful
            omega

theorem resolvePublishedIdentity_ends (listed : List ExportEntry) (deviceId : Int)
    (previous : Option ExportEntry) (role : Bridge.Role) :
    resolvePublishedIdentity listed deviceId previous role ≠ .error .outOfFuel := by
  have ends (identity : String) : firstUnclaimedIdentity listed deviceId listed.length identity ≠
      .error .outOfFuel :=
    firstUnclaimedIdentity_ends fun _ _ => List.length_filter_le _ _
  have mapped {α : Type} (walked : Except WalkError String) (f : String → α)
      (ended : walked ≠ .error .outOfFuel) : walked.map f ≠ .error .outOfFuel := by
    cases walked with
    | ok resolved =>
        intro out
        cases out
    | error error =>
        intro out
        exact ended (congrArg Except.error (Except.error.inj out))
  unfold resolvePublishedIdentity
  split
  · split
    · split
      · intro out
        cases out
      · exact mapped _ _ (ends _)
    · intro out
      cases out
  · exact mapped _ _ (ends _)

end IndigoMatter.Plugin
