import IndigoMatter.Plugin.MeshChoices

/-!
# Choices that show in flags

A flag of the mesh is a flag of a node with names put into its message.  The names
may differ between two orders, but they only replace mentions of addresses, and what
stands behind the last mention stays: the field of a weak reading and the path cost
can be read off the end of the message.
-/

namespace IndigoMatter.Plugin

open IndigoMatter.Library

section Texts

variable (wordChar : Char → Bool)

/-! ## The end of a message -/

/-- A character that is in no mention of an address. -/
def Separates (c : Char) : Prop := c ∉ ['t', 'o', ' ', '0', 'x'] ∧ digitOf? c = none

instance (c : Char) : Decidable (Separates c) := inferInstanceAs (Decidable (_ ∧ _))

/-- A mention ends before a character that is in none. -/
theorem length_of_mention {c : Char} (separates : Separates c) {text rest digits : List Char}
    (found : mention? wordChar (text ++ c :: rest) = some digits) : 9 ≤ text.length := by
  obtain ⟨foreign, noDigit⟩ := separates
  by_contra short
  have among : c ∈ (text ++ c :: rest).take 9 := by
    obtain ⟨more, some⟩ := Nat.exists_eq_add_of_lt (Nat.lt_of_not_le short)
    have left : 9 - text.length = more + 1 := by omega
    rw [List.take_append, left, List.take_succ_cons]
    exact List.mem_append_right _ List.mem_cons_self
  rw [mention?.eq_def] at found
  split at found
  · rename_i x y z w behind same
    split at found
    · rename_i spelled
      have notDigit : ∀ digit ∈ [x, y, z, w], digit ≠ c := by
        rintro digit listed rfl
        have isDigit := List.all_eq_true.mp spelled.1 digit listed
        rw [noDigit] at isDigit
        cases isDigit
      rw [same] at among
      change c ∈ ['t', 'o', ' ', '0', 'x'] ++ [x, y, z, w] at among
      rcases List.mem_append.mp among with letter | digit
      · exact foreign letter
      · exact notDigit c digit rfl
    · cases found
  · cases found

/-- What stands behind such a character is resolved on its own. -/
theorem resolveFrom_split (names : Int → Option String) {c : Char} (separates : Separates c)
    (rest : List Char) {used : Nat} {text : List Char} (within : used ≤ text.length) :
    ∃ head, resolveFrom wordChar names used (text ++ c :: rest) =
      head ++ c :: resolveFrom wordChar names 0 rest := by
  induction text generalizing used with
  | nil =>
      obtain rfl := Nat.le_zero.mp within
      have none : mention? wordChar (c :: rest) = none := by
        by_contra some
        obtain ⟨digits, found⟩ := Option.ne_none_iff_exists'.mp some
        have long : 9 ≤ ([] : List Char).length := length_of_mention wordChar separates found
        cases long
      refine ⟨[], ?_⟩
      simp only [List.nil_append, resolveFrom, none]
  | cons first text ih =>
      cases used with
      | succ used => exact ih (Nat.le_of_succ_le_succ within)
      | zero =>
          cases mention : mention? wordChar (first :: (text ++ c :: rest)) with
          | none =>
              obtain ⟨head, same⟩ := ih (Nat.zero_le _)
              refine ⟨first :: head, ?_⟩
              simp only [List.cons_append, resolveFrom, mention, same]
          | some digits =>
              have long : 9 ≤ (first :: text).length :=
                length_of_mention wordChar separates mention
              have enough : 8 ≤ text.length := Nat.le_of_succ_le_succ long
              obtain ⟨head, same⟩ := ih enough
              refine ⟨named names digits ++ head, ?_⟩
              simp only [List.cons_append, resolveFrom, mention, same, List.append_assoc]

/-- A text without the first letter of a mention stays. -/
theorem resolveFrom_append (names : Int → Option String) {text : List Char}
    (without : 't' ∉ text) (rest : List Char) :
    resolveFrom wordChar names 0 (text ++ rest) = text ++ resolveFrom wordChar names 0 rest := by
  induction text with
  | nil => rfl
  | cons c text ih =>
      rw [List.mem_cons, not_or] at without
      have none : mention? wordChar (c :: (text ++ rest)) = none := by
        rw [mention?.eq_def]
        split
        · rename_i same
          exact absurd (List.cons.inj same).1.symm without.1
        · rfl
      simp only [List.cons_append, resolveFrom, none, ih without.2]

/-! ## Messages that differ -/

/-- The message of a weak link. -/
def weakLinkMessage (name : String) (rssi : Int) (field : RssiField) : String :=
  s!"{name}: link at {rssi} dBm ({field.text}Rssi)"

theorem resolve_weakLinkMessage (names : Int → Option String) (name : String) (rssi : Int)
    (field : RssiField) :
    ∃ head, resolveFrom wordChar names 0 (weakLinkMessage name rssi field).toList =
      head ++ '(' :: (field.text.toList ++ "Rssi)".toList) := by
  have parts : (weakLinkMessage name rssi field).toList =
      (name ++ ": link at " ++ toString rssi ++ " dBm ").toList ++
        '(' :: (field.text.toList ++ "Rssi)".toList) := by
    change (name ++ ": link at " ++ toString rssi ++ " dBm (" ++ field.text ++ "Rssi)").toList = _
    simp only [String.toList_append, List.append_assoc]
    rfl
  obtain ⟨head, same⟩ := resolveFrom_split wordChar names
    (by decide : Separates '(') (field.text.toList ++ "Rssi)".toList) (Nat.zero_le
      (name ++ ": link at " ++ toString rssi ++ " dBm ").toList.length)
  refine ⟨head, ?_⟩
  rw [parts, same]
  cases field with
  | avg => rfl
  | last => rfl

/-- The field of a weak link can be told from its message. -/
theorem field_of_weakLinkMessage {names others : Int → Option String} {name : String} {rssi : Int}
    {field other : RssiField}
    (same : resolveFrom wordChar names 0 (weakLinkMessage name rssi field).toList =
      resolveFrom wordChar others 0 (weakLinkMessage name rssi other).toList) :
    field = other := by
  obtain ⟨head, first⟩ := resolve_weakLinkMessage wordChar names name rssi field
  obtain ⟨head', second⟩ := resolve_weakLinkMessage wordChar others name rssi other
  rw [first, second] at same
  have reversed := congrArg List.reverse same
  simp only [List.reverse_append, List.reverse_cons] at reversed
  cases field with
  | avg =>
      cases other with
      | avg => rfl
      | last => simp [RssiField.text] at reversed
  | last =>
      cases other with
      | avg => simp [RssiField.text] at reversed
      | last => rfl

/-- The message of a node far from the leader. -/
def farMessage (name : String) (cost : Int) : String := s!"{name}: {cost} hops from the leader"

theorem resolve_farMessage (names : Int → Option String) (name : String) (cost : Nat) :
    ∃ head, resolveFrom wordChar names 0 (farMessage name cost).toList =
      head ++ ' ' :: (Nat.toDigits 10 cost ++ " hops from the leader".toList) := by
  have parts : (farMessage name cost).toList =
      name.toList ++ ':' :: ([' '] ++ (Nat.toDigits 10 cost ++ " hops from the leader".toList)) := by
    have digits : (toString (cost : Int)).toList = Nat.toDigits 10 cost := Nat.toList_repr
    change (name ++ ": " ++ toString (cost : Int) ++ " hops from the leader").toList = _
    simp only [String.toList_append, List.append_assoc, digits]
    rfl
  obtain ⟨head, same⟩ := resolveFrom_split wordChar names
    (by decide : Separates ':')
    ([' '] ++ (Nat.toDigits 10 cost ++ " hops from the leader".toList))
    (Nat.zero_le name.toList.length)
  have digitsStay : 't' ∉ Nat.toDigits 10 cost := by
    intro letter
    have isDigit := Nat.isDigit_of_mem_toDigits (by decide) (by decide) letter
    cases isDigit
  refine ⟨head ++ [':'], ?_⟩
  rw [parts, same, resolveFrom_append wordChar names (by decide),
    resolveFrom_append wordChar names digitsStay,
    List.append_assoc]
  rfl

/-- The path cost can be told from the message of a node far from the leader. -/
theorem cost_of_farMessage {names others : Int → Option String} {name : String} {cost other : Nat}
    (same : resolveFrom wordChar names 0 (farMessage name cost).toList =
      resolveFrom wordChar others 0 (farMessage name other).toList) : cost = other := by
  obtain ⟨head, first⟩ := resolve_farMessage wordChar names name cost
  obtain ⟨head', second⟩ := resolve_farMessage wordChar others name other
  rw [first, second] at same
  have isDigit : ∀ {number : Nat}, ∀ c ∈ (Nat.toDigits 10 number).reverse, c.isDigit = true :=
    fun c listed => Nat.isDigit_of_mem_toDigits (by decide) (by decide) (List.mem_reverse.mp listed)
  rw [← List.cons_append, ← List.append_assoc, ← List.cons_append, ← List.append_assoc] at same
  have before := List.append_cancel_right same
  have digits : (Nat.toDigits 10 cost).reverse = (Nat.toDigits 10 other).reverse := by
    have taken := congrArg (fun text => text.reverse.takeWhile Char.isDigit) before
    simp only [List.reverse_append, List.reverse_cons, List.append_assoc] at taken
    rw [List.takeWhile_append_of_pos isDigit, List.takeWhile_append_of_pos isDigit] at taken
    simpa using taken
  have value := congrArg (fun text => Nat.ofDigitChars 10 text 0) (List.reverse_injective digits)
  simpa [Nat.ofDigitChars_ten_toDigits] using value

end Texts

/-! ## Flags of a node -/

/-- A flag about a link, which names its field, or one of another code. -/
theorem mem_weakLinkFlags {diag : NodeDiag} {flag : HealthFlag} (raised : flag ∈ weakLinkFlags diag) :
    flag.nodeKey = meshKey diag ∧ flag.code = .weakLink ∧ ∃ rssi field,
      worstLinkReading diag = some (rssi, field) ∧
        flag.message = weakLinkMessage diag.name rssi field := by
  rw [weakLinkFlags] at raised
  split at raised
  · cases raised
  · rename_i rssi field found
    dsimp only at raised
    split at raised
    · rw [List.mem_singleton.mp raised]
      exact ⟨rfl, rfl, rssi, field, found, rfl⟩
    · split at raised
      · rw [List.mem_singleton.mp raised]
        exact ⟨rfl, rfl, rssi, field, found, rfl⟩
      · cases raised

/-- A flag of a node that is neither about a link nor about a path cost. -/
def IsOtherFlag (diag : NodeDiag) (flag : HealthFlag) : Prop :=
  flag.nodeKey = meshKey diag ∧ flag.code ≠ .weakLink ∧ flag.code ≠ .farFromLeader

/-- The flags of the neighbour table other than the one about a link. -/
theorem mem_neighbourFlags {diag : NodeDiag} {flag : HealthFlag}
    (raised : flag ∈ neighbourFlags diag) :
    flag ∈ weakLinkFlags diag ∨ IsOtherFlag diag flag := by
  rw [neighbourFlags] at raised
  split at raised
  · rw [List.mem_singleton.mp raised]
    exact .inr ⟨rfl, by rintro ⟨⟩, by rintro ⟨⟩⟩
  · rw [List.mem_append, List.mem_append] at raised
    rcases raised with (weak | errors) | few
    · exact .inl weak
    · right
      obtain ⟨row, _, many⟩ := List.mem_filterMap.mp errors
      rw [frameErrorFlag] at many
      split at many
      · cases many
        exact ⟨rfl, by rintro ⟨⟩, by rintro ⟨⟩⟩
      · cases many
    · right
      rw [fewLinksFlags] at few
      split at few
      · split at few
        · rw [List.mem_singleton.mp few]
          exact ⟨rfl, by rintro ⟨⟩, by rintro ⟨⟩⟩
        · rw [List.mem_singleton.mp few]
          exact ⟨rfl, by rintro ⟨⟩, by rintro ⟨⟩⟩
        · cases few
      · split at few
        · rw [List.mem_singleton.mp few]
          exact ⟨rfl, by rintro ⟨⟩, by rintro ⟨⟩⟩
        · cases few

theorem mem_farFlags {diag : NodeDiag} {cost : Option Int} {flag : HealthFlag}
    (raised : flag ∈ farFlags diag cost) :
    flag.nodeKey = meshKey diag ∧ flag.code = .farFromLeader ∧ ∃ far, cost = some far ∧
      PATH_COST_FAR ≤ far ∧ flag.message = farMessage diag.name far := by
  cases cost with
  | none => cases raised
  | some far =>
      rw [farFlags] at raised
      split at raised
      · rename_i isFar
        rw [List.mem_singleton.mp raised]
        exact ⟨rfl, rfl, far, rfl, isFar, rfl⟩
      · cases raised

theorem mem_staleFlags {diag : NodeDiag} {now : Rat} {flag : HealthFlag}
    (raised : flag ∈ staleFlags diag now) :
    flag.nodeKey = meshKey diag ∧ flag.code = .stale := by
  rw [staleFlags] at raised
  split at raised
  · split at raised
    · rw [List.mem_singleton.mp raised]
      exact ⟨rfl, rfl⟩
    · rw [List.mem_singleton.mp raised]
      exact ⟨rfl, rfl⟩
  · cases raised

/-- The flags of a node are those about its link and its path cost, and others. -/
theorem mem_healthFlags {diag : NodeDiag} {now : Rat} {flag : HealthFlag}
    (raised : flag ∈ healthFlags diag now) :
    flag ∈ weakLinkFlags diag ∨ flag ∈ farFlags diag diag.pathCostToLeader ∨
      IsOtherFlag diag flag := by
  simp only [healthFlags, List.mem_append] at raised
  rcases raised with ((((detached | unknown) | neighbours) | far) | unstable) | stale
  · right
    right
    split at detached
    · rw [List.mem_singleton.mp detached]
      exact ⟨rfl, nofun, nofun⟩
    · cases detached
  · right
    right
    split at unknown
    · rw [List.mem_singleton.mp unknown]
      exact ⟨rfl, nofun, nofun⟩
    · cases unknown
  · rcases mem_neighbourFlags neighbours with weak | other
    · exact .inl weak
    · exact .inr (.inr other)
  · exact .inr (.inl far)
  · right
    right
    split at unstable
    · split at unstable
      · rw [List.mem_singleton.mp unstable]
        exact ⟨rfl, nofun, nofun⟩
      · cases unstable
    · cases unstable
  · obtain ⟨key, code⟩ := mem_staleFlags stale
    rw [IsOtherFlag, code]
    exact .inr (.inr ⟨key, nofun, nofun⟩)

theorem nodeKey_of_mem_healthFlags {diag : NodeDiag} {now : Rat} {flag : HealthFlag}
    (raised : flag ∈ healthFlags diag now) : flag.nodeKey = meshKey diag := by
  rcases mem_healthFlags raised with weak | far | ⟨key, _⟩
  · exact (mem_weakLinkFlags weak).1
  · exact (mem_farFlags far).1
  · exact key

theorem mem_healthFlags_of_weakLink {diag : NodeDiag} {now : Rat}
    (known : diag.neighboursKnown = true) {flag : HealthFlag} (weak : flag ∈ weakLinkFlags diag) :
    flag ∈ healthFlags diag now := by
  simp [healthFlags, neighbourFlags, known, weak]

theorem mem_healthFlags_of_far {diag : NodeDiag} {now : Rat} {flag : HealthFlag}
    (far : flag ∈ farFlags diag diag.pathCostToLeader) : flag ∈ healthFlags diag now := by
  simp only [healthFlags, List.mem_append]
  exact .inl (.inl (.inr far))

/-! ## Flags in two orders -/

section Choices

variable {wordChar : Char → Bool} {diags : List NodeDiag} {now : Rat}

/-- A flag of a node is found again in every order, but for the names. -/
theorem OrderFree.flags (free : OrderFree wordChar diags now)
    (distinct : (diags.map NodeDiag.nodeId).Nodup) {diag first second : NodeDiag}
    (member : diag ∈ diags) (tables : SameTables diag first) (tables' : SameTables diag second)
    {flag : HealthFlag} (raised : flag ∈ healthFlags first now) :
    ∃ again ∈ healthFlags second now, again.code = flag.code ∧ ∃ names others,
      resolveFrom wordChar names 0 flag.message.toList =
        resolveFrom wordChar others 0 again.message.toList := by
  have own : flag ∈ (replaceDiag diags diag first).flatMap fun diag => healthFlags diag now :=
    List.mem_flatMap.mpr ⟨first, mem_replaceDiag member, raised⟩
  have listed := List.mem_map_of_mem (f := fun flag : HealthFlag => { flag with
    message := resolveRlocMentions wordChar flag.message
      (namesByRloc (meshNodes (replaceDiag diags diag first))).get? }) own
  have again := (free _ (.of_tables tables' diags)).flags _ |>.mp
    ((free _ (.of_tables tables diags)).flags _ |>.mpr listed)
  obtain ⟨other, among, same⟩ := List.mem_map.mp again
  obtain ⟨node, nodeMember, otherRaised⟩ := List.mem_flatMap.mp among
  have distinct' : ((replaceDiag diags diag second).map NodeDiag.nodeId).Nodup := by
    rw [nodeIds_replaceDiag tables']
    exact distinct
  have key := congrArg HealthFlag.nodeKey same
  dsimp only at key
  rw [nodeKey_of_mem_healthFlags otherRaised, nodeKey_of_mem_healthFlags raised, tables.meshKey,
    ← tables'.meshKey] at key
  have isSecond := eq_of_meshKey distinct' nodeMember (mem_replaceDiag member) key
  subst isSecond
  have code := congrArg HealthFlag.code same
  have text := congrArg (fun flag : HealthFlag => flag.message.toList) same
  simp only [resolveRlocMentions, String.toList_ofList] at text
  exact ⟨other, otherRaised, code, _, _, text.symm⟩

/-- A best reading is found when its row is put first. -/
theorem worstLinkReading_frontRow {diag : NodeDiag} (isRouter : diag.isRouter = true)
    {reading : Int × RssiField} (best : IsBestReading diag reading) :
    ∃ row ∈ diag.neighbours, worstLinkReading (frontRow diag row) = some reading := by
  obtain ⟨row, member, read⟩ := List.mem_filterMap.mp best.1
  have tables := SameTables.frontRow member
  have heads : (frontRow diag row).neighbours.filterMap worstReading =
      reading :: (diag.neighbours.erase row).filterMap worstReading :=
    List.filterMap_cons_some read
  refine ⟨row, member, ?_⟩
  rw [worstLinkReading, tables.isRouter, isRouter, if_pos rfl, heads]
  apply maxBy_cons_of_le
  intro other listed
  obtain ⟨otherRow, among, otherRead⟩ := List.mem_filterMap.mp listed
  exact best.2 other (List.mem_filterMap.mpr ⟨otherRow, List.mem_of_mem_erase among, otherRead⟩)

/-- A weak link is flagged. -/
theorem exists_weakLinkFlag {diag : NodeDiag} {rssi : Int} {field : RssiField}
    (found : worstLinkReading diag = some (rssi, field)) (weak : rssi < RSSI_WEAK) :
    ∃ flag ∈ weakLinkFlags diag, flag.message = weakLinkMessage diag.name rssi field := by
  by_cases bad : rssi < RSSI_BAD
  · simp [weakLinkFlags, found, bad, weakLinkMessage]
  · simp [weakLinkFlags, found, bad, weak, weakLinkMessage]

/-- A weak reading is named by one field. -/
theorem OrderFree.labels (free : OrderFree wordChar diags now)
    (distinct : (diags.map NodeDiag.nodeId).Nodup) {diag : NodeDiag} (member : diag ∈ diags) :
    LabelsAgree diag := by
  rintro isRouter known ⟨rssi, field⟩ ⟨value, other⟩ best best' weak
  have same : value = rssi := le_antisymm (best.2 _ best'.1) (best'.2 _ best.1)
  subst same
  obtain ⟨row, among, found⟩ := worstLinkReading_frontRow isRouter best
  obtain ⟨row', among', found'⟩ := worstLinkReading_frontRow isRouter best'
  obtain ⟨flag, raised, message⟩ := exists_weakLinkFlag found weak
  have listed : flag ∈ healthFlags (frontRow diag row) now := by
    apply mem_healthFlags_of_weakLink _ raised
    exact known
  obtain ⟨again, raised', code, names, others, text⟩ := free.flags distinct member
    (.frontRow among) (.frontRow among') listed
  rw [(mem_weakLinkFlags raised).2.1] at code
  rcases mem_healthFlags raised' with isWeak | isFar | ⟨_, notWeak, _⟩
  · obtain ⟨_, _, _, _, found'', message'⟩ := mem_weakLinkFlags isWeak
    cases found''.symm.trans found'
    rw [message, message'] at text
    exact field_of_weakLinkMessage wordChar text
  · cases code.symm.trans (mem_farFlags isFar).2.1
  · exact absurd code notWeak

/-- The diagnostics with one of their routes put first. -/
def frontRoute (diag : NodeDiag) (route : Route) : NodeDiag :=
  { diag with neighbours := diag.neighbours, routes := route :: diag.routes.erase route }

theorem SameTables.frontRoute {diag : NodeDiag} {route : Route} (member : route ∈ diag.routes) :
    SameTables diag (frontRoute diag route) :=
  .reorder (.refl _) (List.perm_cons_erase member)

theorem pathCostToLeader_frontRoute {diag : NodeDiag} {route : Route}
    (leads : diag.leaderRouterId = some route.routerId) :
    (frontRoute diag route).pathCostToLeader = some route.pathCost := by
  simp [NodeDiag.pathCostToLeader, frontRoute, leads]

theorem OrderFree.cost_eq_of_far (free : OrderFree wordChar diags now)
    (distinct : (diags.map NodeDiag.nodeId).Nodup) {diag : NodeDiag} (member : diag ∈ diags)
    {first second : Route} (among : first ∈ diag.routes) (among' : second ∈ diag.routes)
    (leads : diag.leaderRouterId = some first.routerId)
    (leads' : diag.leaderRouterId = some second.routerId)
    (far : PATH_COST_FAR ≤ first.pathCost) : first.pathCost = second.pathCost := by
  have found := pathCostToLeader_frontRoute leads
  have found' := pathCostToLeader_frontRoute leads'
  have flagged : ⟨meshKey diag, .warn, .farFromLeader, farMessage diag.name first.pathCost⟩ ∈
      farFlags (frontRoute diag first) (frontRoute diag first).pathCostToLeader := by
    rw [found, farFlags, if_pos far]
    exact List.mem_cons_self
  obtain ⟨again, raised', code, names, others, text⟩ := free.flags distinct member
    (.frontRoute among) (.frontRoute among') (mem_healthFlags_of_far flagged)
  rcases mem_healthFlags raised' with isWeak | isFar | ⟨_, _, notFar⟩
  · cases code.symm.trans (mem_weakLinkFlags isWeak).2.1
  · obtain ⟨_, _, cost, costs, far', message⟩ := mem_farFlags isFar
    cases costs.symm.trans found'
    rw [PATH_COST_FAR] at far far'
    obtain ⟨number, isNumber⟩ := Int.eq_ofNat_of_zero_le (by omega : 0 ≤ first.pathCost)
    obtain ⟨number', isNumber'⟩ := Int.eq_ofNat_of_zero_le (by omega : 0 ≤ second.pathCost)
    rw [message, isNumber, isNumber'] at text
    rw [isNumber, isNumber', cost_of_farMessage wordChar text]
  · exact absurd code notFar

/-- The rows of the leader have one path cost where one of them is flagged. -/
theorem OrderFree.costs (free : OrderFree wordChar diags now)
    (distinct : (diags.map NodeDiag.nodeId).Nodup) {diag : NodeDiag} (member : diag ∈ diags) :
    CostsAgree diag := by
  intro first among second among' leads leads'
  rcases lt_or_ge first.pathCost PATH_COST_FAR with near | far
  · rcases lt_or_ge second.pathCost PATH_COST_FAR with near' | far'
    · exact .inr ⟨near, near'⟩
    · exact .inl (free.cost_eq_of_far distinct member among' among leads' leads far').symm
  · exact .inl (free.cost_eq_of_far distinct member among among' leads leads' far)

/-! ## The order of the diagnostics -/

/-- Where the mesh is the same in every order, no scan has a choice that shows. -/
theorem OrderFree.choicesAgree (free : OrderFree wordChar diags now)
    (distinct : (diags.map NodeDiag.nodeId).Nodup) : ChoicesAgree diags where
  networkNames := fun _ member _ member' named named' =>
    (free.networkName member named).symm.trans (free.networkName member' named')
  channels := fun _ member _ member' _ _ present present' =>
    Option.some.inj ((free.channel member present).symm.trans (free.channel member' present'))
  panIds := fun _ member _ member' _ _ present present' =>
    Option.some.inj ((free.panId member present).symm.trans (free.panId member' present'))
  owners := fun _ member _ member' _ resolves resolves' differ =>
    free.owners distinct member member' resolves resolves' differ
  parents := fun _ member isLeaf _ _ best best' => free.parents distinct member isLeaf best best'
  worst := fun _ member _ _ worst worst' => free.worst distinct member worst worst'
  labels := fun _ member => free.labels distinct member
  costs := fun _ member => free.costs distinct member

/-- The mesh is the same in every order where no scan has a choice that shows, and only
where those for the header, the owners, the parents, the worst rows, the readings and the
path costs have none. -/
theorem orderFree_between (distinct : (diags.map NodeDiag.nodeId).Nodup) :
    (OrderSafe wordChar diags now → OrderFree wordChar diags now) ∧
      (OrderFree wordChar diags now → ChoicesAgree diags) :=
  ⟨fun safe => safe.orderFree distinct, fun free => free.choicesAgree distinct⟩

/-- A router and a device that hears it alone. -/
def routerAndSensor : List NodeDiag :=
  [routerDiag 63 23 [childRow 0x5C04, childRow 0x5C05], sleepyDiag 56 0x5C00]

theorem orderFree_between_routerAndSensor : OrderFree Char.isAlphanum routerAndSensor 0 := by
  have oneParent : ∀ diag ∈ routerAndSensor, diag.isRouter = false →
      ∀ row ∈ diag.parentCandidates, row = peerRow 0x5C00 := by decide
  have oneOwner : ∀ diag ∈ routerAndSensor, diag.routerId.isSome = true →
      diag = routerDiag 63 23 [childRow 0x5C04, childRow 0x5C05] := by decide
  have ungrouped : ∀ diag ∈ routerAndSensor, groupRows routerAndSensor diag = [] := by decide
  have strong : ∀ diag ∈ routerAndSensor, ∀ reading ∈ diag.neighbours.filterMap worstReading,
      ¬reading.1 < RSSI_WEAK := by decide
  have unled : ∀ diag ∈ routerAndSensor, diag.channel = some 15 ∧ diag.panId = none ∧
      diag.leaderRouterId = none := by decide
  have sameOwner : ∀ first ∈ routerAndSensor, ∀ second ∈ routerAndSensor, ∀ routerId,
      first.routerId = some routerId → second.routerId = some routerId → first = second := by
    intro first member second member' routerId resolves resolves'
    rw [oneOwner first member (by rw [resolves]; rfl), oneOwner second member'
      (by rw [resolves']; rfl)]
  apply (orderFree_between (by decide)).1
  refine ⟨⟨by decide, ?_, ?_, ?_, ?_, ?_, ?_, ?_⟩, ?_, ?_⟩
  · intro first member second member' a b present present'
    rw [(unled first member).1] at present
    rw [(unled second member').1] at present'
    exact Option.some.inj (present.symm.trans present')
  · intro first member second member' a b present
    rw [(unled first member).2.1] at present
    cases present
  · intro first member second member' routerId resolves resolves' differ
    exact absurd (sameOwner first member second member' routerId resolves resolves') differ
  · intro diag member isLeaf first second best best'
    rw [oneParent diag member isLeaf first best.1, oneParent diag member isLeaf second best'.1]
    exact ⟨⟨rfl, rfl, rfl, rfl⟩, rfl⟩
  · intro diag member first second worst
    have among := worst.among
    rw [ungrouped diag member] at among
    cases among
  · intro diag member _ _ first second best _ weak
    exact absurd weak (strong diag member first best.1)
  · intro diag member first _ second _ leads
    rw [(unled diag member).2.2] at leads
    cases leads
  · intro first member second member' routerId resolves resolves' differ
    rw [sameOwner first member second member' routerId resolves resolves'] at differ
    exact absurd rfl differ
  · intro diag member isLeaf first second best best' router _ _ row _ same
    rw [same, oneParent diag member isLeaf first best.1,
      oneParent diag member isLeaf second best'.1]

/-- Two rows of equal strength: the parent is the router of the one listed first. -/
theorem tiedParents_order :
    ¬∀ (wordChar : Char → Bool) (diags : List NodeDiag) (now : Rat),
      (diags.map NodeDiag.nodeId).Nodup → OrderFree wordChar diags now := by
  intro free
  have same := free Char.isAlphanum
    [{ sleepyDiag 56 0x5C00 with neighbours := [peerRow 0x5C00, peerRow 0x6000] }] 0 (by decide)
    [{ sleepyDiag 56 0x5C00 with neighbours := [peerRow 0x6000, peerRow 0x5C00] }]
    ⟨_, .refl _, .cons (.reorder (.swap _ _ _) (.refl _)) .nil⟩
  have listed := (same.links (rowLink (.node 56) (.router 23) .parent (peerRow 0x5C00)
    (.node 56))).mp (by decide)
  revert listed
  decide

end Choices

end IndigoMatter.Plugin
