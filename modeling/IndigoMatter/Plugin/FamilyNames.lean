import IndigoMatter.Library.NumberedText
import IndigoMatter.Plugin.BridgedLiveness

/-!
# Names of a node's devices

The devices of a node are named as a family: the node device has the bare base, every
other device the base with its role.  The base is nowhere in a snapshot.  It is read back
from the names the devices have: a name of a generated form votes for the base it was made
from, and a single base that is voted for is the base of the family.

Votes for the fallback base are weak: they lose against any other.
-/

namespace IndigoMatter.Plugin

open IndigoMatter.Library

/-! ## Generated names -/

/-- `_ROLE_LABELS`. -/
def ROLE_LABELS : List (TypeId × String) :=
  [("matterRelay", "Switch"), ("matterDimmer", "Dimmer"), ("matterColorDimmer", "Light"),
    ("matterTemperatureSensor", "Temperature"), ("matterHumiditySensor", "Humidity"),
    ("matterMotionSensor", "Motion"), ("matterContactSensor", "Contact"),
    ("matterIlluminanceSensor", "Illuminance"), ("matterPressureSensor", "Pressure"),
    ("matterFlowSensor", "Flow"), ("matterThermostat", "Thermostat"), ("matterFan", "Fan"),
    ("matterWindowCovering", "Window Covering"), ("matterLock", "Lock"), ("matterValve", "Valve"),
    ("matterButton", "Button"), ("matterSmokeCOAlarm", "Smoke/CO"),
    ("matterAirQualitySensor", "Air Quality"), ("matterCO2Sensor", "CO₂"),
    ("matterPM25Sensor", "PM2.5"), ("matterTVOCSensor", "TVOC"), ("matterEnergyMeter", "Energy"),
    ("matterUnknown", "Unsupported")]

/-- The role of a device type; empty where it has none. -/
def roleLabel (typeId : TypeId) : Text := ((ROLE_LABELS.lookup typeId).getD "").toList

/-- What a role adds to a base. -/
def roleTail (role : Text) : Text := " - ".toList ++ role

/-- What stands before a number at the end of a name. -/
def numberStem? (name : Text) : Option Text := stemBefore? [' '] [] name

/-- What stands before an endpoint at the end of a name. -/
def endpointStem? (name : Text) : Option Text :=
  stemBefore? " (endpoint ".toList ")".toList name

/-- `_ENDPOINT_SUFFIX_RE.sub("", name)`, where it finds something; a line end may follow. -/
def withoutEndpoint? (name : Text) : Option Text :=
  (endpointStem? name).or
    ((stem? ['\n'] name).bind fun line => (endpointStem? line).map fun stem => stem ++ ['\n'])

/-- What `(?P<base>.+)` matches. -/
def isOneLine (base : Text) : Bool := base ≠ [] && '\n' ∉ base

/-- `_generated_base`. -/
def generatedBase (name role : Text) : Option Text :=
  match withoutEndpoint? name with
  | some stripped => if stripped = [] then none else some stripped
  | none =>
      if role = [] then none
      else
        ((stem? (roleTail role) name).filter isOneLine).or
          (((numberStem? name).bind (stem? (roleTail role))).filter isOneLine)

/-- `_is_generated_name`. -/
def isGeneratedName (name base role : Text) : Bool :=
  base ≠ [] &&
    (name = base || numberStem? name = some base ||
      (role ≠ [] && (name = base ++ roleTail role || numberStem? name = some (base ++ roleTail role))) ||
      endpointStem? name = some base)

/-! ## What a snapshot says -/

section Snapshot

-- Python's `str`.
variable (str : PyJson → String)

/-- The product name of a node. -/
def NodeInfo.productName (node : NodeInfo) : Text :=
  match node.attributes.get? ⟨0, 0x0028, 0x0003⟩ with
  | some value => if value.truthy then (str value).toList else []
  | none => []

/-- `_fallback_base`. -/
def NodeInfo.fallbackBase (node : NodeInfo) : Text :=
  if node.productName str = [] then "Matter ".toList ++ integerChars node.nodeId
  else node.productName str

/-- The name a handler gives a device where the user has given none. -/
def NodeInfo.specName (node : NodeInfo) (typeId : TypeId) : Text :=
  if node.productName str = [] ∧ typeId = "matterLock" then
    "Matter Lock ".toList ++ integerChars node.nodeId
  else node.fallbackBase str

/-- An identity attribute of a bridged endpoint. -/
def NodeInfo.bridgeIdentity (node : NodeInfo) (endpointId : EndpointId) (attributeId : Int) : Text :=
  match node.attributes.get? ⟨endpointId, 0x0039, attributeId⟩ with
  | none | some .null => []
  | some value => (str value).toList

/-- The label a bridged child names itself by; empty for any other endpoint. -/
def NodeInfo.bridgeLabel (node : NodeInfo) (endpointId : EndpointId) : Text :=
  if node.bridgeIdentity str endpointId 0x0005 = [] then node.bridgeIdentity str endpointId 0x0003
  else node.bridgeIdentity str endpointId 0x0005

/-- How many devices of a plan have a role. -/
def roleCount (plan : List (EndpointId × TypeId)) (role : Text) : Nat :=
  plan.countP fun entry => roleLabel entry.2 = role

/-- The name a pass wants for a device of the plan. -/
def NodeInfo.endpointName (node : NodeInfo) (plan : List (EndpointId × TypeId))
    (derived : Option Text) (entry : EndpointId × TypeId) : Text :=
  let label := node.bridgeLabel str entry.1
  let base := if label ≠ [] then node.specName str entry.2
    else derived.getD (node.specName str entry.2)
  let role := roleLabel entry.2
  if label ≠ [] then label
  else if role ≠ [] ∧ 1 < roleCount plan role then
    base ++ roleTail role ++ ' ' :: integerChars entry.1
  else if role ≠ [] then base ++ roleTail role
  else if 1 < plan.length then base ++ " (endpoint ".toList ++ integerChars entry.1 ++ ")".toList
  else base

end Snapshot

/-! ## Votes -/

/-- The vote of a device, by its name. -/
def castVote (fallback : Text) (typeId : TypeId) (name : Text) : Option Text :=
  match generatedBase name (roleLabel typeId) with
  | some base => some base
  | none => if name = fallback then some fallback else none

/-- The base that votes agree on. -/
def agreedBase (fallback : Text) (votes : List Text) : Option Text :=
  match (votes.filter (· ≠ fallback)).dedup with
  | [] => if votes.isEmpty then none else some fallback
  | [base] => some base
  | _ => none

/-! ## A generated name votes for its base -/

/-- A role that is read back from a name: it does not end like an endpoint or a line, and no
number in it stands alone. -/
def isRoleText (role : Text) : Bool :=
  role.getLast?.any (fun c => c ≠ ')' && c ≠ '\n') &&
    (role.rdropWhile isDecimal).getLast?.any fun c => c ≠ ' ' && c ≠ '-'

theorem numberStem?_eq_some_iff {name stem : Text} :
    numberStem? name = some stem ↔
      ∃ digits, digits ≠ [] ∧ (∀ c ∈ digits, isDecimal c = true) ∧ name = stem ++ [' '] ++ digits := by
  have pattern := @stemBefore?_eq_some_iff [' '] [] name stem ' ' rfl (by decide)
  unfold numberStem?
  simpa only [List.append_nil] using pattern

section Parsing

variable {role base name : Text} {c : Char}

/-- A name that ends in neither a bracket nor a line end has no endpoint to strip. -/
theorem withoutEndpoint?_of_getLast? (last : name.getLast? = some c) (bracket : c ≠ ')')
    (line : c ≠ '\n') : withoutEndpoint? name = none := by
  have noEndpoint : endpointStem? name = none := by
    cases found : endpointStem? name with
    | none => rfl
    | some stem =>
        rcases Option.bind_eq_some_iff.mp found with ⟨numbered, ends, _⟩
        rw [stem?_eq_some_iff.mp ends, List.getLast?_append] at last
        cases last
        exact absurd rfl bracket
  have noLine : stem? ['\n'] name = none := by
    cases found : stem? ['\n'] name with
    | none => rfl
    | some stem =>
        rw [stem?_eq_some_iff.mp found, List.getLast?_append] at last
        cases last
        exact absurd rfl line
  unfold withoutEndpoint?
  rw [noEndpoint, noLine]
  rfl

theorem rdropWhile_append_of_getLast? (last : (role.rdropWhile isDecimal).getLast? = some c) :
    (base ++ role).rdropWhile isDecimal = base ++ role.rdropWhile isDecimal := by
  have apart : isDecimal c = false := by
    have nonempty : role.rdropWhile isDecimal ≠ [] := by
      intro empty
      rw [empty] at last
      cases last
    have kept := List.rdropWhile_last_not isDecimal role nonempty
    rw [List.getLast?_eq_some_getLast nonempty] at last
    rw [Option.some.inj last] at kept
    simpa using kept
  calc (base ++ role).rdropWhile isDecimal
      = (base ++ (role.rdropWhile isDecimal ++ role.rtakeWhile isDecimal)).rdropWhile isDecimal := by
        rw [List.rdropWhile_append_rtakeWhile]
    _ = (base ++ role.rdropWhile isDecimal).rdropWhile isDecimal := by
        rw [← List.append_assoc, rdropWhile_append_digits]
        exact fun d member => List.mem_rtakeWhile_imp member
    _ = base ++ role.rdropWhile isDecimal := by
        apply rdropWhile_of_getLast? _ apart
        rw [List.getLast?_append, last]
        rfl

/-- What stands before the number at the end of a name ends in a blank. -/
theorem getLast?_rdropWhile_of_numberStem? {stem : Text} (found : numberStem? name = some stem) :
    (name.rdropWhile isDecimal).getLast? = some ' ' := by
  rcases numberStem?_eq_some_iff.mp found with ⟨digits, _, decimal, rfl⟩
  rw [rdropWhile_append_digits decimal, rdropWhile_of_getLast? (c := ' ')]
  · simp
  · simp
  · decide

theorem isDecimal_last {digits : Text} (nonempty : digits ≠ [])
    (decimal : ∀ c ∈ digits, isDecimal c = true) (front : Text) :
    ∃ d, (front ++ digits).getLast? = some d ∧ isDecimal d = true := by
  refine ⟨digits.getLast nonempty, ?_, decimal _ (List.getLast_mem nonempty)⟩
  rw [List.getLast?_append, List.getLast?_eq_some_getLast nonempty]
  rfl

structure RoleText (role : Text) : Prop where
  last : ∃ c, role.getLast? = some c ∧ c ≠ ')' ∧ c ≠ '\n'
  body : ∃ c, (role.rdropWhile isDecimal).getLast? = some c ∧ c ≠ ' ' ∧ c ≠ '-'

theorem roleText_of_isRoleText (isRole : isRoleText role = true) : RoleText role := by
  unfold isRoleText at isRole
  simp only [Bool.and_eq_true, Option.any_eq_true, decide_eq_true_eq] at isRole
  exact ⟨isRole.1, isRole.2⟩

namespace RoleText

theorem ne_nil (isRole : RoleText role) : role ≠ [] := by
  rcases isRole.last with ⟨c, last, _⟩
  rintro rfl
  cases last

theorem tail (isRole : RoleText role) : RoleText (roleTail role) := by
  rcases isRole.last with ⟨c, last, kinds⟩
  rcases isRole.body with ⟨d, body, others⟩
  refine ⟨⟨c, ?_, kinds⟩, ⟨d, ?_, others⟩⟩
  · unfold roleTail
    rw [List.getLast?_append, last]
    rfl
  · unfold roleTail
    rw [rdropWhile_append_of_getLast? body, List.getLast?_append, body]
    rfl

/-- No number stands alone at the end of a name that ends in a role. -/
theorem numberStem?_eq_none (isRole : RoleText role) (base : Text) :
    numberStem? (base ++ role) = none := by
  rcases isRole.body with ⟨c, body, blank, _⟩
  cases found : numberStem? (base ++ role) with
  | none => rfl
  | some stem =>
      have last := getLast?_rdropWhile_of_numberStem? found
      rw [rdropWhile_append_of_getLast? body, List.getLast?_append, body] at last
      cases last
      exact absurd rfl blank

/-- A name of a base and a role is read back as the base, or not at all. -/
theorem eq_base_of_tail (isRole : RoleText role) {found : Text}
    (parsed : generatedBase (base ++ roleTail role) role = some found) : found = base := by
  rcases isRole.tail.last with ⟨c, last, bracket, line⟩
  have ends : (base ++ roleTail role).getLast? = some c := by
    rw [List.getLast?_append, last]
    rfl
  unfold generatedBase at parsed
  rw [withoutEndpoint?_of_getLast? ends bracket line, isRole.tail.numberStem?_eq_none,
    stem?_eq_some_iff.mpr rfl] at parsed
  simp only [isRole.ne_nil, if_false, Option.bind_none, Option.filter_none, Option.or_none]
    at parsed
  exact (Option.some.inj (Option.filter_eq_some_iff.mp parsed).1).symm

/-- Nor does a name that ends in a role end in a number behind a blank or a sign. -/
theorem stem?_tail_eq_none (isRole : RoleText role) {front digits : Text}
    (decimal : ∀ c ∈ digits, isDecimal c = true)
    (last : front.getLast? = some ' ' ∨ front.getLast? = some '-') :
    stem? (roleTail role) (front ++ digits) = none := by
  rcases isRole.tail.body with ⟨c, body, blank, sign⟩
  cases found : stem? (roleTail role) (front ++ digits) with
  | none => rfl
  | some stem =>
      have same := congrArg (fun name => (name.rdropWhile isDecimal).getLast?)
        (stem?_eq_some_iff.mp found)
      simp only [rdropWhile_append_digits decimal, rdropWhile_append_of_getLast? body,
        List.getLast?_append, body, Option.some_or] at same
      rcases last with last | last
      · rw [rdropWhile_of_getLast? last (by decide), last] at same
        exact absurd (Option.some.inj same).symm blank
      · rw [rdropWhile_of_getLast? last (by decide), last] at same
        exact absurd (Option.some.inj same).symm sign

/-- So is the name of one of several devices with a role. -/
theorem eq_base_of_numbered (isRole : RoleText role) (number : Int) {found : Text}
    (parsed : generatedBase (base ++ roleTail role ++ ' ' :: integerChars number) role =
      some found) : found = base := by
  have read : ∀ front digits : Text, digits ≠ [] → (∀ c ∈ digits, isDecimal c = true) →
      front.getLast? = some ' ' ∨ front.getLast? = some '-' →
        generatedBase (front ++ digits) role =
          ((numberStem? (front ++ digits)).bind (stem? (roleTail role))).filter isOneLine := by
    intro front digits nonempty decimal last
    rcases isDecimal_last nonempty decimal front with ⟨d, ends, isDigit⟩
    have bracket : d ≠ ')' := by
      rintro rfl
      cases isDigit
    have line : d ≠ '\n' := by
      rintro rfl
      cases isDigit
    unfold generatedBase
    rw [withoutEndpoint?_of_getLast? ends bracket line, isRole.stem?_tail_eq_none decimal last]
    simp only [isRole.ne_nil, if_false, Option.filter_none, Option.none_or]
  cases number with
  | ofNat n =>
      have split : base ++ roleTail role ++ ' ' :: integerChars (.ofNat n) =
          (base ++ roleTail role ++ [' ']) ++ Nat.toDigits 10 n := by
        simp [integerChars]
      have numbered : numberStem? ((base ++ roleTail role ++ [' ']) ++ Nat.toDigits 10 n) =
          some (base ++ roleTail role) :=
        numberStem?_eq_some_iff.mpr
          ⟨_, Nat.toDigits_ne_nil, fun c => isDecimal_of_mem_toDigits, rfl⟩
      rw [split, read _ _ Nat.toDigits_ne_nil (fun c => isDecimal_of_mem_toDigits)
        (.inl (by simp)), numbered, Option.bind_some, stem?_eq_some_iff.mpr rfl] at parsed
      exact (Option.some.inj (Option.filter_eq_some_iff.mp parsed).1).symm
  | negSucc n =>
      have split : base ++ roleTail role ++ ' ' :: integerChars (.negSucc n) =
          (base ++ roleTail role ++ [' ', '-']) ++ Nat.toDigits 10 (n + 1) := by
        simp [integerChars]
      have unnumbered : numberStem?
          ((base ++ roleTail role ++ [' ', '-']) ++ Nat.toDigits 10 (n + 1)) = none := by
        cases found : numberStem?
            ((base ++ roleTail role ++ [' ', '-']) ++ Nat.toDigits 10 (n + 1)) with
        | none => rfl
        | some stem =>
            have last := getLast?_rdropWhile_of_numberStem? found
            rw [rdropWhile_append_digits (fun c => isDecimal_of_mem_toDigits),
              rdropWhile_of_getLast? (c := '-') (by simp) (by decide)] at last
            simp at last
      rw [split, read _ _ Nat.toDigits_ne_nil (fun c => isDecimal_of_mem_toDigits)
        (.inr (by simp)), unnumbered] at parsed
      cases parsed

end RoleText

end Parsing

/-- Every device a handler plans has a role. -/
theorem labelled_of_mem_handlersForEndpoint {endpoint : EndpointInfo} {typeId : TypeId}
    (planned : typeId ∈ handlersForEndpoint endpoint) : typeId ∈ ROLE_LABELS.map Prod.fst := by
  rcases List.mem_map.mp planned with ⟨handler, listed, rfl⟩
  rw [List.mem_filter, Bool.and_eq_true] at listed
  rcases listed with ⟨known, _, primary⟩
  have labelled : ∀ handler ∈ defaultHandlers, handler.isPrimaryFor endpoint = true →
      handler.deviceTypeId ∈ ROLE_LABELS.map Prod.fst := by
    intro handler known primary
    simp only [defaultHandlers, List.mem_cons, List.not_mem_nil, or_false] at known
    rcases known with rfl | rfl | rfl | rfl | rfl | rfl | rfl | rfl | rfl | rfl | rfl | rfl | rfl |
      rfl | rfl | rfl | rfl | rfl | rfl | rfl | rfl | rfl | rfl | rfl | rfl | rfl | rfl <;>
      first
        | exact of_decide_eq_true rfl
        | cases primary
  exact labelled handler known primary

theorem labelled_of_mem_plan {sync : DeviceSync} {node : NodeInfo}
    {entry : EndpointId × TypeId} (planned : entry ∈ sync.plan node) :
    entry.2 ∈ ROLE_LABELS.map Prod.fst := by
  rcases entry with ⟨endpointId, typeId⟩
  simp only [DeviceSync.plan, List.mem_flatMap, List.mem_map, Prod.mk.injEq] at planned
  rcases planned with ⟨endpoint, _, _, listed, _, rfl⟩
  simp only [DeviceSync.plannedTypes] at listed
  split at listed
  · exact labelled_of_mem_handlersForEndpoint listed
  · split at listed
    · split at listed
      · rw [List.mem_singleton.mp listed]
        exact of_decide_eq_true rfl
      · cases listed
    · split at listed
      · rw [List.mem_singleton.mp listed]
        exact of_decide_eq_true rfl
      · cases listed

theorem roleText_of_labelled {typeId : TypeId} (labelled : typeId ∈ ROLE_LABELS.map Prod.fst) :
    RoleText (roleLabel typeId) := by
  have all : ∀ typeId ∈ ROLE_LABELS.map Prod.fst, isRoleText (roleLabel typeId) = true := by
    decide
  exact roleText_of_isRoleText (all typeId labelled)

theorem roleText_of_mem_plan {sync : DeviceSync} {node : NodeInfo}
    {entry : EndpointId × TypeId} (planned : entry ∈ sync.plan node) :
    RoleText (roleLabel entry.2) :=
  roleText_of_labelled (labelled_of_mem_plan planned)

/-- A device that is given the name a pass wants for it votes for the base of the pass, if it
votes at all and not for the fallback. -/
theorem castVote_endpointName {str : PyJson → String} {node : NodeInfo}
    {plan : List (EndpointId × TypeId)} {base fallback vote : Text}
    {entry : EndpointId × TypeId} (isRole : RoleText (roleLabel entry.2))
    (unlabelled : node.bridgeLabel str entry.1 = [])
    (voted : castVote fallback entry.2 (node.endpointName str plan (some base) entry) = some vote) :
    vote = base ∨ vote = fallback := by
  unfold castVote at voted
  split at voted
  · rename_i found parsed
    left
    rw [← Option.some.inj voted]
    unfold NodeInfo.endpointName at parsed
    simp only [unlabelled, ne_eq, not_true_eq_false, if_false, isRole.ne_nil, not_false_eq_true,
      true_and, if_true, Option.getD_some] at parsed
    split at parsed
    · exact isRole.eq_base_of_numbered entry.1 parsed
    · exact isRole.eq_base_of_tail parsed
  · split at voted
    · exact .inr (Option.some.inj voted).symm
    · cases voted

/-! ## How votes change -/

/-- How much there is left of the votes to change a base. -/
def voteRank (fallback : Text) (votes : List Text) : Nat :=
  match (votes.filter (· ≠ fallback)).dedup with
  | [] => if votes.isEmpty then 0 else 1
  | [_] => 2
  | _ => 0

theorem dedup_filter_of_all {fallback base : Text} {votes : List Text}
    (only : ∀ vote ∈ votes, vote = base ∨ vote = fallback) :
    (votes.filter (· ≠ fallback)).dedup = [] ∨ (votes.filter (· ≠ fallback)).dedup = [base] := by
  have same : ∀ vote ∈ (votes.filter (· ≠ fallback)).dedup, vote = base := by
    intro vote member
    rw [List.mem_dedup, List.mem_filter, decide_eq_true_eq] at member
    exact (only vote member.1).resolve_right member.2
  have nodup := List.nodup_dedup (votes.filter (· ≠ fallback))
  cases strong : (votes.filter (· ≠ fallback)).dedup with
  | nil => exact .inl rfl
  | cons first rest =>
      right
      rw [strong] at same nodup
      have none_ : rest = [] := by
        apply List.eq_nil_iff_forall_not_mem.mpr
        intro vote member
        have equal := same vote (List.mem_cons_of_mem first member)
        rw [← same first List.mem_cons_self] at equal
        exact (List.nodup_cons.mp nodup).1 (equal ▸ member)
      rw [none_, same first List.mem_cons_self]

/-- The votes that agree on a base are for it or the fallback. -/
theorem eq_or_eq_of_agreedBase {fallback base : Text} {votes : List Text}
    (agreed : agreedBase fallback votes = some base) :
    ∀ vote ∈ votes, vote = base ∨ vote = fallback := by
  intro vote member
  by_cases weak : vote = fallback
  · exact .inr weak
  · left
    have strong : vote ∈ (votes.filter (· ≠ fallback)).dedup := by
      simp [member, weak]
    unfold agreedBase at agreed
    split at agreed
    · rename_i empty
      rw [empty] at strong
      cases strong
    · rename_i only single
      rw [single, List.mem_singleton] at strong
      rw [strong, Option.some.inj agreed]
    · cases agreed

/-- Where every new vote is for the agreed base or the fallback, the base stays the same or
fewer votes are left. -/
theorem voteRank_of_agreed {fallback base : Text} {votes later : List Text}
    (agreed : agreedBase fallback votes = some base)
    (added : ∀ vote ∈ later, vote ∈ votes ∨ vote = base ∨ vote = fallback) :
    voteRank fallback later < voteRank fallback votes ∨
      (voteRank fallback later = voteRank fallback votes ∧
        agreedBase fallback later = some base) := by
  have only : ∀ vote ∈ later, vote = base ∨ vote = fallback := by
    intro vote member
    rcases added vote member with earlier | new
    · exact eq_or_eq_of_agreedBase agreed vote earlier
    · exact new
  unfold agreedBase at agreed
  unfold voteRank agreedBase
  split at agreed
  · rename_i noneStrong
    split at agreed
    · cases agreed
    · rename_i voted
      have weak : base = fallback := (Option.some.inj agreed).symm
      have empty : (later.filter (· ≠ fallback)).dedup = [] := by
        rcases dedup_filter_of_all only with empty | single
        · exact empty
        · have member : base ∈ (later.filter (· ≠ fallback)).dedup :=
            single ▸ List.mem_singleton_self base
          simp [weak] at member
      rw [empty, if_neg voted]
      cases later with
      | nil => exact .inl Nat.zero_lt_one
      | cons first rest => exact .inr ⟨rfl, congrArg some weak.symm⟩
  · rename_i strong single
    cases agreed
    rcases dedup_filter_of_all only with empty | same
    · rw [empty]
      left
      show (if later.isEmpty = true then 0 else 1) < 2
      cases later.isEmpty with
      | true => decide
      | false => decide
    · rw [same]
      exact .inr ⟨rfl, rfl⟩
  · cases agreed

end IndigoMatter.Plugin
