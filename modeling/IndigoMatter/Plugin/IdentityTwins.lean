import IndigoMatter.Plugin.PublishedIdentity

/-!
# The two readers of an identity

The plugin and the node each read a published identity, and each identity the
plugin bumps has to be read by both as the later one.  The node reads a
generation as a double, so the two part where a generation is no double, where
the next one rounds back to it, and where the next one is too long to be an
identity at all.
-/

namespace IndigoMatter.Plugin

open IndigoMatter.Library
open IndigoMatter.Bridge (PublishedId PUBLISHED_ID_MAX MAX_SAFE_INTEGER PUBLISHED_ID_PREFIX
  parsePublishedId supersedes supersedes_iff readIdentity_eq_some_iff keepsFirst_id
  keepsFirst_nearestDouble Spelling)

/-- Whether the plugin reads the new identity as a later generation of the old one. -/
def ReadsAsLater (oldPublishedAs newPublishedAs : String) : Prop :=
  ∃ before after, parsePublished oldPublishedAs = some before ∧
    parsePublished newPublishedAs = some after ∧
    before.deviceId = after.deviceId ∧ before.generation < after.generation

/-- Both peers read a text alike, and both take what the plugin makes of it for the
identity that supersedes it. -/
structure TwinsAgree (value : String) : Prop where
  reading : parsePublishedId value = parsePublished value
  accepted : ∀ next, nextGeneration value = some next →
    (parsePublishedId next).isSome = true ∧ (parsePublished next).isSome = true
  superseded : ∀ next, nextGeneration value = some next →
    supersedes value next = true ∧ ReadsAsLater value next

/-- A generation that a double holds and whose successor reads as a later double. -/
def Bumpable (generation : Nat) : Prop :=
  generation < 2 ^ 53 ∨ (generation < 2 ^ 54 ∧ generation % 4 = 2)

theorem bumpable_iff {generation : Nat} :
    Bumpable generation ↔ nearestDouble generation = generation ∧
      nearestDouble generation < nearestDouble (generation + 1) := by
  constructor
  · intro bumpable
    have isDouble : nearestDouble generation = generation := by
      rcases bumpable with small | ⟨binade, even⟩
      · exact nearestDouble_of_lt small
      · have double := @nearestDouble_mul_two_pow (generation / 2) 1 (by omega)
        have halves : generation / 2 * 2 ^ 1 = generation := by omega
        rwa [halves] at double
    exact ⟨isDouble, (nearestDouble_lt_succ_iff isDouble).mpr bumpable⟩
  · rintro ⟨isDouble, later⟩
    exact (nearestDouble_lt_succ_iff isDouble).mp later

/-- The two readings of one spelling. -/
theorem readings_of_spelling {value : String} {spelling : Spelling} (lawful : spelling.Lawful)
    (text : spelling.text = value.toList) (fits : value.length ≤ PUBLISHED_ID_MAX) :
    parsePublished value = some ⟨spelling.deviceId, spelling.generation⟩ ∧
      parsePublishedId value =
        some ⟨spelling.deviceId, nearestDouble spelling.generation⟩ :=
  ⟨(readIdentity_eq_some_iff keepsFirst_id).mpr ⟨fits, spelling, lawful, text, rfl⟩,
    (readIdentity_eq_some_iff keepsFirst_nearestDouble).mpr
      ⟨fits, spelling, lawful, text, rfl⟩⟩

theorem length_publishedIdFor {deviceId : Int} {generation : Nat} (later : generation ≠ 1) :
    (publishedIdFor deviceId generation).length =
      8 + (toString deviceId).length + (toString generation).length := by
  have prefixed : PUBLISHED_ID_PREFIX.length = 7 := rfl
  have tilde : "~".length = 1 := rfl
  rw [publishedIdFor, if_neg later, String.length_append, String.length_append,
    String.length_append, prefixed, tilde]
  omega

/-- The peers agree about one spelling just when its generation can be bumped as a
double and the bumped identity is short enough. -/
theorem twinsAgree_of_spelling_iff {value : String} {spelling : Spelling}
    (lawful : spelling.Lawful) (text : spelling.text = value.toList)
    (fits : value.length ≤ PUBLISHED_ID_MAX) :
    TwinsAgree value ↔ Bumpable spelling.generation ∧
      (toString spelling.deviceId).length + (toString (spelling.generation + 1)).length ≤ 24 := by
  rcases readings_of_spelling lawful text fits with ⟨exact, rounded⟩
  have positive := lawful.one_le_generation
  have safe : spelling.deviceId.natAbs ≤ MAX_SAFE_INTEGER := (parsePublished_eq_some exact).1
  have bumped : nextGeneration value =
      some (publishedIdFor spelling.deviceId (spelling.generation + 1)) := by
    rw [nextGeneration, exact]
    rfl
  have length := @length_publishedIdFor spelling.deviceId (spelling.generation + 1) (by omega)
  have short : (publishedIdFor spelling.deviceId (spelling.generation + 1)).length ≤
      PUBLISHED_ID_MAX ↔ (toString spelling.deviceId).length +
        (toString (spelling.generation + 1)).length ≤ 24 := by
    rw [length]
    unfold PUBLISHED_ID_MAX
    omega
  have nextReadings (nextFits : (publishedIdFor spelling.deviceId
      (spelling.generation + 1)).length ≤ PUBLISHED_ID_MAX) :=
    readings_of_spelling (Spelling.lawful_plain safe (Nat.le_add_left 1 spelling.generation))
      (toList_publishedIdFor spelling.deviceId (spelling.generation + 1)).symm nextFits
  simp only [Spelling.deviceId_plain, Spelling.generation_plain] at nextReadings
  rw [bumpable_iff, ← short]
  constructor
  · intro agree
    have isDouble : nearestDouble spelling.generation = spelling.generation := by
      have same := agree.reading
      rw [exact, rounded] at same
      exact congrArg PublishedId.generation (Option.some.inj same)
    rcases agree.superseded _ bumped with ⟨nodeLater, before, after, -, nextExact, -⟩
    have nextFits := ((readIdentity_eq_some_iff keepsFirst_id).mp nextExact).1
    rcases supersedes_iff.mp nodeLater with ⟨old, new, oldRead, newRead, -, later⟩
    obtain rfl := Option.some.inj (oldRead.symm.trans rounded)
    obtain rfl := Option.some.inj (newRead.symm.trans (nextReadings nextFits).2)
    exact ⟨⟨isDouble, later⟩, nextFits⟩
  · rintro ⟨⟨isDouble, later⟩, nextFits⟩
    rcases nextReadings nextFits with ⟨nextExact, nextRounded⟩
    constructor
    · rw [exact, rounded, isDouble]
    · intro next following
      obtain rfl := Option.some.inj (bumped.symm.trans following)
      rw [nextExact, nextRounded]
      exact ⟨rfl, rfl⟩
    · intro next following
      obtain rfl := Option.some.inj (bumped.symm.trans following)
      constructor
      · exact supersedes_iff.mpr ⟨_, _, rounded, nextRounded, rfl, later⟩
      · exact ⟨_, _, exact, nextExact, rfl, Nat.lt_succ_self _⟩

/-- A text in no lawful spelling is refused by both. -/
theorem twinsAgree_of_unlawful {value : String}
    (unlawful : ¬∃ spelling : Spelling, spelling.Lawful ∧ spelling.text = value.toList ∧
      value.length ≤ PUBLISHED_ID_MAX) : TwinsAgree value := by
  have refused : parsePublished value = none := by
    cases read : parsePublished value with
    | none => rfl
    | some parsed =>
        rcases (readIdentity_eq_some_iff keepsFirst_id).mp read with
          ⟨fits, spelling, lawful, text, -⟩
        exact absurd ⟨spelling, lawful, text, fits⟩ unlawful
  have nodeRefused : parsePublishedId value = none := by
    rw [← Option.isNone_iff_eq_none, ← Option.not_isSome, ← isSome_parsePublished, refused]
    rfl
  have unbumped : nextGeneration value = none := by
    rw [nextGeneration, refused]
    rfl
  constructor
  · rw [refused, nodeRefused]
  · intro next following
    rw [unbumped] at following
    cases following
  · intro next following
    rw [unbumped] at following
    cases following

/-- The two languages agree on a text unless it spells an identity whose generation
is too large for a double, or whose next generation is too long. -/
theorem twinsAgree_iff (value : String) :
    TwinsAgree value ↔
      ∀ spelling : Spelling, spelling.Lawful → spelling.text = value.toList →
        value.length ≤ PUBLISHED_ID_MAX → Bumpable spelling.generation ∧
          (toString spelling.deviceId).length +
            (toString (spelling.generation + 1)).length ≤ 24 := by
  constructor
  · intro agree spelling lawful text fits
    exact (twinsAgree_of_spelling_iff lawful text fits).mp agree
  · intro holds
    by_cases spelled : ∃ spelling : Spelling, spelling.Lawful ∧
        spelling.text = value.toList ∧ value.length ≤ PUBLISHED_ID_MAX
    · rcases spelled with ⟨spelling, lawful, text, fits⟩
      exact (twinsAgree_of_spelling_iff lawful text fits).mpr (holds spelling lawful text fits)
    · exact twinsAgree_of_unlawful spelled

/-- The node reads `2 ^ 53 + 1` as `2 ^ 53`. -/
theorem not_twinsAgree_beyond_doubles : ¬∀ value, TwinsAgree value := by
  intro agree
  exact absurd (agree "indigo-1~9007199254740993").reading (by decide +kernel)

end IndigoMatter.Plugin
