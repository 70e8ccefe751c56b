import IndigoMatter.Plugin.MeshOrder

/-!
# Choices that show

Where a scan has a choice that shows, two orders of the same diagnostics give two
meshes.  For each of the scans the two orders are put together here: the diagnostics
with one of them moved to the front or to the end, or with the rows of one of them
rearranged.
-/

namespace IndigoMatter.Plugin

open IndigoMatter.Library

/-! ## Orders of the diagnostics -/

theorem SameTables.refl (diag : NodeDiag) : SameTables diag diag := .reorder (.refl _) (.refl _)

/-- The diagnostics in another order, their tables as they are. -/
theorem Rearranged.of_perm {first second : List NodeDiag} (perm : first.Perm second) :
    Rearranged first second :=
  ⟨second, perm, List.forall₂_same.mpr fun diag _ => SameTables.refl diag⟩

/-- The diagnostics with the tables of one of them in another order. -/
def replaceDiag (diags : List NodeDiag) (diag other : NodeDiag) : List NodeDiag :=
  diags.map fun item => if item = diag then other else item

theorem Rearranged.of_tables {diag other : NodeDiag} (tables : SameTables diag other)
    (diags : List NodeDiag) : Rearranged diags (replaceDiag diags diag other) := by
  refine ⟨diags, .refl _, ?_⟩
  rw [replaceDiag, List.forall₂_map_right_iff, List.forall₂_same]
  intro item _
  split
  · rename_i same
    rw [same]
    exact tables
  · exact SameTables.refl item

theorem SameMesh.symm {first second : Mesh} (same : SameMesh first second) :
    SameMesh second first where
  networkName := same.networkName.symm
  channel := same.channel.symm
  panId := same.panId.symm
  partitionIds := same.partitionIds.symm
  majorityPartition := same.majorityPartition.symm
  majorityLeader := same.majorityLeader.symm
  nodes := fun node => (same.nodes node).symm
  links := fun link => (same.links link).symm
  flags := fun flag => (same.flags flag).symm
  unreadable := fun entry => (same.unreadable entry).symm
  disagreements := fun text => (same.disagreements text).symm
  warnings := fun entry => (same.warnings entry).symm

section Choices

variable {wordChar : Char → Bool} {diags : List NodeDiag} {now : Rat}

/-! ## The header -/

theorem OrderFree.networkName (free : OrderFree wordChar diags now) {diag : NodeDiag}
    (member : diag ∈ diags) (named : diag.networkName ≠ "") :
    firstNetworkName diags = diag.networkName := by
  have same := free _ (.of_perm (List.perm_cons_erase member))
  refine same.networkName.trans ?_
  change firstNetworkName (diag :: diags.erase diag) = _
  simp [firstNetworkName_eq, named]

theorem OrderFree.firstPresent_of_front {field : NodeDiag → Option Int} {diag : NodeDiag}
    {value : Int} (rest : List NodeDiag) (present : field diag = some value) :
    firstPresent field (diag :: rest) = some value := by
  simp [firstPresent_eq, present]

theorem OrderFree.channel (free : OrderFree wordChar diags now) {diag : NodeDiag} {value : Int}
    (member : diag ∈ diags) (present : diag.channel = some value) :
    firstPresent NodeDiag.channel diags = some value := by
  have same := free _ (.of_perm (List.perm_cons_erase member))
  exact same.channel.trans (OrderFree.firstPresent_of_front _ present)

theorem OrderFree.panId (free : OrderFree wordChar diags now) {diag : NodeDiag} {value : Int}
    (member : diag ∈ diags) (present : diag.panId = some value) :
    firstPresent NodeDiag.panId diags = some value := by
  have same := free _ (.of_perm (List.perm_cons_erase member))
  exact same.panId.trans (OrderFree.firstPresent_of_front _ present)

/-! ## Links of one node -/

/-- A link that starts at a node is one the node reports. -/
theorem reported_of_source (distinct : (diags.map NodeDiag.nodeId).Nodup) {diag : NodeDiag}
    (member : diag ∈ diags) {link : MeshLink} (listed : link ∈ meshLinks diags)
    (source : link.a = meshKey diag) : link ∈ reportedLinks diags diag := by
  rcases List.mem_append.mp listed with reported | drawn
  · obtain ⟨other, among, own⟩ := List.mem_flatMap.mp reported
    have same := (ends_of_mem_reportedLinks own).1.symm.trans source
    rw [eq_of_meshKey distinct among member same] at own
    exact own
  · obtain ⟨standIn, among, rfl⟩ := List.mem_map.mp drawn
    obtain ⟨other, _, own⟩ := List.mem_flatMap.mp among
    rcases key_of_mem_standIns own with ⟨row, _, rfl⟩ | ⟨worst, rfl⟩
    · cases source
    · cases source

/-- What a leaf reports is the link to its parent. -/
theorem mem_reportedLinks_of_leaf {diag : NodeDiag} (isLeaf : diag.isRouter = false)
    {link : MeshLink} :
    link ∈ reportedLinks diags diag ↔ ∃ parent, diag.parent = some parent ∧
      link = rowLink (meshKey diag) (targetKey diags parent.routerId) .parent parent
        (meshKey diag) := by
  rw [reportedLinks, isLeaf, if_neg Bool.false_ne_true, List.mem_map]
  simp only [Option.mem_toList]
  constructor
  · rintro ⟨parent, found, rfl⟩
    exact ⟨parent, found, rfl⟩
  · rintro ⟨parent, found, rfl⟩
    exact ⟨parent, found, rfl⟩

/-- What a router reports are the links to its peers. -/
theorem mem_reportedLinks_of_router {diag : NodeDiag} (isRouter : diag.isRouter = true)
    {link : MeshLink} :
    link ∈ reportedLinks diags diag ↔ ∃ row ∈ diag.neighbours, row.isChild = false ∧
      link = rowLink (meshKey diag) (targetKey diags row.routerId) .router row
        (meshKey diag) := by
  rw [reportedLinks, isRouter, if_pos rfl, List.mem_map]
  simp only [List.mem_filter, Bool.not_eq_true']
  constructor
  · rintro ⟨row, ⟨member, isPeer⟩, rfl⟩
    exact ⟨row, member, isPeer, rfl⟩
  · rintro ⟨row, member, isPeer, rfl⟩
    exact ⟨row, ⟨member, isPeer⟩, rfl⟩

theorem mem_meshLinks_of_reported {diag : NodeDiag} (member : diag ∈ diags) {link : MeshLink}
    (reported : link ∈ reportedLinks diags diag) : link ∈ meshLinks diags :=
  List.mem_append_left _ (List.mem_flatMap.mpr ⟨diag, member, reported⟩)

/-! ## Another table -/

theorem mem_replaceDiag {diag other : NodeDiag} (member : diag ∈ diags) :
    other ∈ replaceDiag diags diag other :=
  List.mem_map.mpr ⟨diag, member, if_pos rfl⟩

theorem filterMap_replaceDiag {α : Type} {f : NodeDiag → Option α} {diag other : NodeDiag}
    (same : f other = f diag) :
    (replaceDiag diags diag other).filterMap f = diags.filterMap f := by
  rw [replaceDiag, List.filterMap_map]
  apply List.filterMap_congr
  intro item _
  dsimp only [Function.comp]
  split
  · rename_i isDiag
    rw [isDiag, same]
  · rfl

theorem nodeIds_replaceDiag {diag other : NodeDiag} (tables : SameTables diag other) :
    (replaceDiag diags diag other).map NodeDiag.nodeId = diags.map NodeDiag.nodeId := by
  have same : other.nodeId = diag.nodeId := by
    cases tables
    rfl
  rw [← List.filterMap_eq_map]
  exact filterMap_replaceDiag (congrArg some same)

/-- Keys are resolved as before. -/
theorem targetKey_replaceDiag {diag other : NodeDiag} (tables : SameTables diag other) :
    targetKey (replaceDiag diags diag other) = targetKey diags := by
  have owned : ownedKeyByRouterId (replaceDiag diags diag other) = ownedKeyByRouterId diags := by
    rw [ownedKeyByRouterId, filterMap_replaceDiag (by rw [tables.routerId, tables.meshKey])]
    rfl
  funext routerId
  rw [targetKey, targetKey, owned]

/-- A router has no parent row to claim a child by. -/
theorem identifiedChildRlocs_replaceDiag {diag other : NodeDiag} (tables : SameTables diag other)
    (isRouter : diag.isRouter = true) :
    identifiedChildRlocs (replaceDiag diags diag other) = identifiedChildRlocs diags := by
  have same : other.parent = diag.parent := by
    rw [NodeDiag.parent_eq_none_iff.mpr (.inl isRouter)]
    exact NodeDiag.parent_eq_none_iff.mpr (.inl (tables.isRouter.trans isRouter))
  funext key
  rw [identifiedChildRlocs, identifiedChildRlocs, filterMap_replaceDiag same,
    targetKey_replaceDiag tables]

theorem targetKey_injective (distinct : (diags.map NodeDiag.nodeId).Nodup) :
    Function.Injective (targetKey diags) := by
  intro routerId otherId same
  rcases targetKey_eq_meshKey_or diags routerId with ⟨owner, owns, resolved, key⟩ | ⟨_, key⟩
  · have others := OrderSafe.routerId_of_targetKey distinct owns (same.symm.trans key)
    exact Option.some.inj (resolved.symm.trans others)
  · rcases targetKey_eq_meshKey_or diags otherId with ⟨owner, _, _, otherKey⟩ | ⟨_, otherKey⟩
    · cases key.symm.trans (same.trans otherKey)
    · exact MeshKey.router.inj (key.symm.trans (same.trans otherKey))

/-- The diagnostics with one of their rows put first. -/
def frontRow (diag : NodeDiag) (row : Neighbour) : NodeDiag :=
  { diag with neighbours := row :: diag.neighbours.erase row, routes := diag.routes }

theorem SameTables.frontRow {diag : NodeDiag} {row : Neighbour} (member : row ∈ diag.neighbours) :
    SameTables diag (frontRow diag row) :=
  .reorder (List.perm_cons_erase member) (.refl _)

theorem filter_frontRow (diag : NodeDiag) {row : Neighbour} (passes : Neighbour → Bool)
    (suits : passes row = true) :
    (frontRow diag row).neighbours.filter passes =
      row :: (diag.neighbours.erase row).filter passes :=
  List.filter_cons_of_pos suits

/-- A row that is put first is the first candidate. -/
theorem parentCandidates_frontRow {diag : NodeDiag} {row : Neighbour}
    (candidate : row ∈ diag.parentCandidates) :
    ∃ rest, (frontRow diag row).parentCandidates = row :: rest := by
  by_cases alone : ((diag.neighbours.filter fun row =>
      row.rxOnWhenIdle && row.fullThreadDevice).filter fun row => !row.isChild).isEmpty = true
  · simp only [NodeDiag.parentCandidates, alone, if_true] at candidate
    obtain ⟨member, suits⟩ := List.mem_filter.mp candidate
    have others := (((SameTables.frontRow member).neighbours.filter fun row =>
      row.rxOnWhenIdle && row.fullThreadDevice).filter fun row => !row.isChild).isEmpty_eq
    rw [alone] at others
    have heads := filter_frontRow diag (fun row => row.rxOnWhenIdle && row.fullThreadDevice) suits
    rw [NodeDiag.parentCandidates, ← others, if_pos rfl, heads]
    exact ⟨_, rfl⟩
  · simp only [NodeDiag.parentCandidates, alone, Bool.false_eq_true, if_false] at candidate
    obtain ⟨listed, isPeer⟩ := List.mem_filter.mp candidate
    obtain ⟨_, suits⟩ := List.mem_filter.mp listed
    have heads := filter_frontRow diag (fun row => row.rxOnWhenIdle && row.fullThreadDevice) suits
    simp [NodeDiag.parentCandidates, heads, isPeer]

theorem mem_neighbours_of_candidate {diag : NodeDiag} {row : Neighbour}
    (candidate : row ∈ diag.parentCandidates) : row ∈ diag.neighbours := by
  rw [NodeDiag.parentCandidates] at candidate
  split at candidate
  · exact List.mem_of_mem_filter candidate
  · exact List.mem_of_mem_filter (List.mem_of_mem_filter candidate)

/-- The first of the best rows is the parent. -/
theorem parent_of_front {diag : NodeDiag} (isLeaf : diag.isRouter = false) {row : Neighbour}
    (best : IsBestParent diag row) : ∃ other, SameTables diag other ∧ other.parent = some row := by
  have tables := SameTables.frontRow (mem_neighbours_of_candidate best.1)
  obtain ⟨rest, candidates⟩ := parentCandidates_frontRow best.1
  refine ⟨frontRow diag row, tables, ?_⟩
  have stays := (tables.isBestParent_iff.mpr best).2
  rw [candidates] at stays
  rw [NodeDiag.parent, tables.isRouter, isLeaf, if_neg Bool.false_ne_true, candidates]
  exact maxBy_cons_of_le fun other member => stays other (List.mem_cons_of_mem _ member)

/-- Parents among equally good rows look alike and are of one router. -/
theorem OrderFree.parents (free : OrderFree wordChar diags now)
    (distinct : (diags.map NodeDiag.nodeId).Nodup) {diag : NodeDiag} (member : diag ∈ diags)
    (isLeaf : diag.isRouter = false) {row other : Neighbour} (best : IsBestParent diag row)
    (otherBest : IsBestParent diag other) :
    LooksLike row other ∧ row.routerId = other.routerId := by
  obtain ⟨first, tables, found⟩ := parent_of_front isLeaf best
  obtain ⟨second, tables', found'⟩ := parent_of_front isLeaf otherBest
  have reported : rowLink (meshKey diag) (targetKey diags row.routerId) .parent row
      (meshKey diag) ∈ reportedLinks (replaceDiag diags diag first) first := by
    rw [mem_reportedLinks_of_leaf (tables.isRouter.trans isLeaf), targetKey_replaceDiag tables,
      tables.meshKey]
    exact ⟨row, found, rfl⟩
  have listed := (free _ (.of_tables tables diags)).links _ |>.mpr
    (mem_meshLinks_of_reported (mem_replaceDiag member) reported)
  have again := (free _ (.of_tables tables' diags)).links _ |>.mp listed
  have distinct' : ((replaceDiag diags diag second).map NodeDiag.nodeId).Nodup := by
    rw [nodeIds_replaceDiag tables']
    exact distinct
  have own := reported_of_source distinct' (mem_replaceDiag member) again tables'.meshKey.symm
  rw [mem_reportedLinks_of_leaf (tables'.isRouter.trans isLeaf), targetKey_replaceDiag tables']
    at own
  obtain ⟨parent, isParent, same⟩ := own
  cases isParent.symm.trans found'
  simp only [rowLink, MeshLink.mk.injEq] at same
  obtain ⟨_, target, _, avg, last, lqi, frameErrors, _⟩ := same
  exact ⟨⟨avg, last, lqi, frameErrors⟩, targetKey_injective distinct target⟩

/-! ## Owners -/

/-- The last node that resolves a router id has it. -/
theorem targetKey_of_last {diag : NodeDiag} {routerId : Int}
    (resolved : diag.routerId = some routerId) (rest : List NodeDiag) :
    targetKey (rest ++ [diag]) routerId = meshKey diag := by
  have owned : (ownedKeyByRouterId (rest ++ [diag])).get? routerId = some (meshKey diag) := by
    rw [ownedKeyByRouterId, List.filterMap_append, InsertionMap.get?_ofList_append]
    simp [InsertionMap.ofList, resolved]
  rw [targetKey, owned, Option.getD_some]

/-- A router id that is referred to is where a link of that node leads, in every order
of the diagnostics. -/
theorem OrderFree.exists_reported (free : OrderFree wordChar diags now)
    (distinct : (diags.map NodeDiag.nodeId).Nodup) {routerId : Int}
    (referred : Referred diags routerId) :
    ∃ diag ∈ diags, ∀ others, ∃ link ∈ reportedLinks others diag,
      link.b = targetKey others routerId := by
  obtain ⟨diag, member, ⟨isRouter, row, listed, isPeer, rfl⟩ | ⟨isLeaf, row, best, rfl⟩⟩ := referred
  · refine ⟨diag, member, fun others => ?_⟩
    exact ⟨_, (mem_reportedLinks_of_router isRouter).mpr ⟨row, listed, isPeer, rfl⟩, rfl⟩
  · cases found : diag.parent with
    | none =>
        rcases NodeDiag.parent_eq_none_iff.mp found with isRouter | none
        · cases isLeaf.symm.trans isRouter
        · have candidate := best.1
          rw [none] at candidate
          cases candidate
    | some parent =>
        have same := free.parents distinct member isLeaf (NodeDiag.parent_isBest found) best
        refine ⟨diag, member, fun others => ?_⟩
        refine ⟨_, (mem_reportedLinks_of_leaf isLeaf).mpr ⟨parent, found, rfl⟩, ?_⟩
        rw [← same.2]
        rfl

/-- A router id that is referred to has one owner. -/
theorem OrderFree.owners (free : OrderFree wordChar diags now)
    (distinct : (diags.map NodeDiag.nodeId).Nodup) {first second : NodeDiag}
    (member : first ∈ diags) (member' : second ∈ diags) {routerId : Int}
    (resolves : first.routerId = some routerId) (resolves' : second.routerId = some routerId)
    (differ : first ≠ second) : ¬Referred diags routerId := by
  intro referred
  have perm : diags.Perm (diags.erase first ++ [first]) :=
    (List.perm_cons_erase member).trans (List.perm_append_singleton _ _).symm
  have perm' : diags.Perm (diags.erase second ++ [second]) :=
    (List.perm_cons_erase member').trans (List.perm_append_singleton _ _).symm
  obtain ⟨diag, among, reports⟩ := free.exists_reported distinct referred
  obtain ⟨link, reported, leads⟩ := reports (diags.erase first ++ [first])
  obtain ⟨source, _⟩ := ends_of_mem_reportedLinks reported
  rw [targetKey_of_last resolves] at leads
  have listed := (free _ (.of_perm perm)).links link |>.mpr
    (mem_meshLinks_of_reported (perm.mem_iff.mp among) reported)
  have again := (free _ (.of_perm perm')).links link |>.mp listed
  have distinct' : ((diags.erase second ++ [second]).map NodeDiag.nodeId).Nodup :=
    (perm'.map _).nodup_iff.mp distinct
  have own := reported_of_source distinct' (perm'.mem_iff.mp among) again source
  obtain ⟨_, row, _, leads'⟩ := ends_of_mem_reportedLinks own
  -- The row leads to the first owner, so its router id is the contested one.
  have same : row.routerId = routerId := by
    have owned := OrderSafe.routerId_of_targetKey distinct' (perm'.mem_iff.mp member)
      (leads'.symm.trans leads)
    exact Option.some.inj (owned.symm.trans resolves)
  rw [same, targetKey_of_last resolves'] at leads'
  exact differ (eq_of_meshKey distinct member member' (leads.symm.trans leads'))

/-! ## Worst rows -/

theorem worstReading_eq_none_of {row : Neighbour} (none : worstValue row = none) :
    worstReading row = Option.none :=
  Option.map_eq_none_iff.mp none

/-- The first row is found when none is worse. -/
theorem worstOf_cons_of_isWorst {row : Neighbour} {rest : List Neighbour}
    (worst : IsWorst (row :: rest) row) : worstOf (row :: rest) = some row := by
  cases read : worstReading row with
  | some reading =>
      have heads : (row :: rest).filterMap
          (fun row => (worstReading row).map fun reading => (row, reading.1)) =
            (row, reading.1) :: rest.filterMap
              (fun row => (worstReading row).map fun reading => (row, reading.1)) := by
        simp [read]
      have best : minBy Prod.snd ((row, reading.1) :: rest.filterMap
          (fun row => (worstReading row).map fun reading => (row, reading.1))) =
            some (row, reading.1) := by
        apply minBy_cons_of_le
        intro pair member
        obtain ⟨other, among, paired⟩ := List.mem_filterMap.mp member
        obtain ⟨value, otherRead, rfl⟩ := Option.map_eq_some_iff.mp paired
        obtain ⟨own, found, least⟩ := worst.least other (List.mem_cons_of_mem _ among) value.1
          (by rw [worstValue, otherRead]; rfl)
        rw [worstValue, read] at found
        cases found
        exact least
      simp only [worstOf, heads, best]
  | none =>
      have unread : ∀ other ∈ row :: rest, worstValue other = none := by
        intro other among
        cases found : worstValue other with
        | none => rfl
        | some value =>
            obtain ⟨own, present, _⟩ := worst.least other among value found
            rw [worstValue, read] at present
            cases present
      have readings : (row :: rest).filterMap
          (fun row => (worstReading row).map fun reading => (row, reading.1)) = [] := by
        rw [List.filterMap_eq_nil_iff]
        intro other among
        rw [worstReading_eq_none_of (unread other among)]
        rfl
      have first : minBy Neighbour.rloc16 (row :: rest) = some row :=
        minBy_cons_of_le fun other among =>
          worst.lowest unread other (List.mem_cons_of_mem _ among)
      simp only [worstOf, readings, minBy_nil, first]

/-- The link of grouped rows is that of the worst of them. -/
theorem link_of_unattributed (distinct : (diags.map NodeDiag.nodeId).Nodup) {diag : NodeDiag}
    (member : diag ∈ diags) {link : MeshLink} (listed : link ∈ meshLinks diags)
    (source : link.a = .unattributed diag.nodeId) :
    ∃ worst, worstOf (groupRows diags diag) = some worst ∧
      link = (group diag (groupRows diags diag) worst).link := by
  rcases List.mem_append.mp listed with reported | drawn
  · obtain ⟨other, _, own⟩ := List.mem_flatMap.mp reported
    cases (ends_of_mem_reportedLinks own).1.symm.trans source
  · obtain ⟨standIn, among, rfl⟩ := List.mem_map.mp drawn
    obtain ⟨other, otherMember, own⟩ := List.mem_flatMap.mp among
    rw [standIns_eq, List.mem_append, List.mem_map, List.mem_map] at own
    rcases own with ⟨row, _, rfl⟩ | ⟨worst, found, rfl⟩
    · cases source
    · have same : other = diag :=
        List.inj_on_of_nodup_map distinct otherMember member (MeshKey.unattributed.inj source)
      subst same
      exact ⟨worst, Option.mem_toList.mp found, rfl⟩

theorem isRouter_of_grouped {diag : NodeDiag} {row : Neighbour}
    (grouped : row ∈ groupRows diags diag) :
    diag.isRouter = true ∧ (childRows diags diag true).isEmpty = false ∧
      row ∈ childRows diags diag false := by
  rw [groupRows] at grouped
  split at grouped
  · rename_i drawn
    exact ⟨drawn.1, by simpa using drawn.2, grouped⟩
  · cases grouped

/-- A grouped row that is put first is the first of the grouped rows. -/
theorem groupRows_frontRow {diag : NodeDiag} {row : Neighbour}
    (grouped : row ∈ groupRows diags diag) :
    (groupRows diags diag).Perm
        (groupRows (replaceDiag diags diag (frontRow diag row)) (frontRow diag row)) ∧
      ∃ rest, groupRows (replaceDiag diags diag (frontRow diag row)) (frontRow diag row) =
        row :: rest := by
  obtain ⟨isRouter, found, excess⟩ := isRouter_of_grouped grouped
  obtain ⟨child, unfound⟩ := mem_childRows.mp excess
  obtain ⟨member, isChild⟩ := List.mem_filter.mp child
  have tables := SameTables.frontRow member
  have perm : ∀ identified, (childRows diags diag identified).Perm
      (childRows (replaceDiag diags diag (frontRow diag row)) (frontRow diag row)
        identified) := by
    intro identified
    rw [childRows, childRows, identifiedChildRlocs_replaceDiag tables isRouter, tables.meshKey]
    exact tables.children.filter _
  have groups : ∀ others other, other.isRouter = true →
      (childRows others other true).isEmpty = false →
        groupRows others other = childRows others other false := by
    intro others other isRouter found
    rw [groupRows, isRouter, found]
    rfl
  rw [groups diags diag isRouter found, groups _ _ (tables.isRouter.trans isRouter)
    ((perm true).isEmpty_eq.symm.trans found)]
  refine ⟨perm false, ?_⟩
  rw [childRows, identifiedChildRlocs_replaceDiag tables isRouter, tables.meshKey,
    NodeDiag.children, filter_frontRow diag Neighbour.isChild isChild,
    List.filter_cons_of_pos (by simpa using unfound)]
  exact ⟨_, rfl⟩

/-- The worst of grouped rows look alike. -/
theorem OrderFree.worst (free : OrderFree wordChar diags now)
    (distinct : (diags.map NodeDiag.nodeId).Nodup) {diag : NodeDiag} (member : diag ∈ diags)
    {row other : Neighbour} (worst : IsWorst (groupRows diags diag) row)
    (worst' : IsWorst (groupRows diags diag) other) : LooksLike row other := by
  have arranged : ∀ {item}, IsWorst (groupRows diags diag) item →
      SameTables diag (frontRow diag item) ∧
        worstOf (groupRows (replaceDiag diags diag (frontRow diag item)) (frontRow diag item)) =
          some item := by
    intro item least
    obtain ⟨perm, rest, heads⟩ := groupRows_frontRow least.among
    obtain ⟨_, _, excess⟩ := isRouter_of_grouped least.among
    refine ⟨.frontRow (List.mem_of_mem_filter (mem_childRows.mp excess).1), ?_⟩
    rw [heads]
    rw [heads] at perm
    exact worstOf_cons_of_isWorst (least.of_perm perm.symm)
  obtain ⟨tables, found⟩ := arranged worst
  obtain ⟨tables', found'⟩ := arranged worst'
  have drawn : group (frontRow diag row)
      (groupRows (replaceDiag diags diag (frontRow diag row)) (frontRow diag row)) row ∈
        standIns (replaceDiag diags diag (frontRow diag row)) (frontRow diag row) := by
    rw [standIns_eq, found]
    exact List.mem_append_right _ List.mem_cons_self
  have listed := List.mem_append_right
    ((replaceDiag diags diag (frontRow diag row)).flatMap
      (reportedLinks (replaceDiag diags diag (frontRow diag row))))
    (List.mem_map_of_mem (f := StandIn.link)
      (List.mem_flatMap.mpr ⟨_, mem_replaceDiag member, drawn⟩))
  have again := (free _ (.of_tables tables' diags)).links _ |>.mp
    ((free _ (.of_tables tables diags)).links _ |>.mpr listed)
  have distinct' : ((replaceDiag diags diag (frontRow diag other)).map NodeDiag.nodeId).Nodup := by
    rw [nodeIds_replaceDiag tables']
    exact distinct
  obtain ⟨last, isLast, same⟩ :=
    link_of_unattributed distinct' (mem_replaceDiag member) again rfl
  cases isLast.symm.trans found'
  simp only [group, rowLink, MeshLink.mk.injEq] at same
  obtain ⟨_, _, _, avg, lastRssi, lqi, frameErrors, _⟩ := same
  exact ⟨avg, lastRssi, lqi, frameErrors⟩

end Choices

end IndigoMatter.Plugin
