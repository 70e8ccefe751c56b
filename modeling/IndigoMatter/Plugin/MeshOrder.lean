import IndigoMatter.Plugin.MeshShape
import IndigoMatter.Plugin.Rearrangement

/-!
# The mesh in another order

A mesh should not depend on the order of the diagnostics or of their tables.  Some
of its scans take the first or the last of several: the header values, the owner of
a router id that several nodes resolve, the parent among equally good rows, the
worst of grouped rows, the path cost among rows of the leader and the field a weak
reading is named by.  Where none of these scans has a choice that shows, the mesh is
the same in every order.
-/

namespace IndigoMatter.Plugin

open IndigoMatter.Library

/-! ## The same mesh -/

/-- Meshes that have the same header and the same nodes, links, flags, disagreements
and warnings, in whatever order. -/
structure SameMesh (first second : Mesh) : Prop where
  networkName : first.networkName = second.networkName
  channel : first.channel = second.channel
  panId : first.panId = second.panId
  partitionIds : first.partitionIds = second.partitionIds
  majorityPartition : first.majorityPartition = second.majorityPartition
  majorityLeader : first.majorityLeader = second.majorityLeader
  nodes : ∀ node, node ∈ first.nodes ↔ node ∈ second.nodes
  links : ∀ link, link ∈ first.links ↔ link ∈ second.links
  flags : ∀ flag, flag ∈ first.flags ↔ flag ∈ second.flags
  unreadable : ∀ entry, entry ∈ first.unreadable ↔ entry ∈ second.unreadable
  disagreements : ∀ text, text ∈ first.disagreements ↔ text ∈ second.disagreements
  warnings : ∀ entry, entry ∈ first.warnings ↔ entry ∈ second.warnings

/-- The mesh of some diagnostics is the same in every order. -/
def OrderFree (wordChar : Char → Bool) (diags : List NodeDiag) (now : Rat) : Prop :=
  ∀ other, Rearranged diags other →
    SameMesh (buildMesh wordChar diags now) (buildMesh wordChar other now)

/-! ## Scans without a choice -/

/-- A router id a link is drawn to, in some order. -/
def Referred (diags : List NodeDiag) (routerId : Int) : Prop :=
  ∃ diag ∈ diags,
    (diag.isRouter = true ∧ ∃ row ∈ diag.neighbours, row.isChild = false ∧
      row.routerId = routerId) ∨
    (diag.isRouter = false ∧ ∃ row, IsBestParent diag row ∧ row.routerId = routerId)

/-- The addresses a text mentions, behind characters that are used up. -/
def mentions (wordChar : Char → Bool) : Nat → List Char → List Int
  | _, [] => []
  | used + 1, _ :: rest => mentions wordChar used rest
  | 0, c :: rest =>
      match mention? wordChar (c :: rest) with
      | some digits => mentioned digits :: mentions wordChar 8 rest
      | none => mentions wordChar 0 rest

/-- The name of a node in messages. -/
def shortName (diag : NodeDiag) : String := .ofList (beforeParenthesis diag.name.toList)

/-- The worst reading of a row, where there is one. -/
def worstValue (row : Neighbour) : Option Int := (worstReading row).map Prod.fst

/-- A row `_worst_of` can find, depending on the order. -/
structure IsWorst (rows : List Neighbour) (row : Neighbour) : Prop where
  among : row ∈ rows
  least : ∀ other ∈ rows, ∀ value, worstValue other = some value →
    ∃ own, worstValue row = some own ∧ own ≤ value
  lowest : (∀ other ∈ rows, worstValue other = none) →
    ∀ other ∈ rows, row.rloc16 ≤ other.rloc16

/-- What a mesh that is the same in every order needs: no scan for a header value, an
owner, a parent, a worst row, a reading or a path cost has a choice that shows. -/
structure ChoicesAgree (diags : List NodeDiag) : Prop where
  networkNames : ∀ first ∈ diags, ∀ second ∈ diags, first.networkName ≠ "" →
    second.networkName ≠ "" → first.networkName = second.networkName
  channels : ∀ first ∈ diags, ∀ second ∈ diags, ∀ a b, first.channel = some a →
    second.channel = some b → a = b
  panIds : ∀ first ∈ diags, ∀ second ∈ diags, ∀ a b, first.panId = some a →
    second.panId = some b → a = b
  owners : ∀ first ∈ diags, ∀ second ∈ diags, ∀ routerId, first.routerId = some routerId →
    second.routerId = some routerId → first ≠ second → ¬Referred diags routerId
  parents : ∀ diag ∈ diags, diag.isRouter = false → ∀ first second, IsBestParent diag first →
    IsBestParent diag second → LooksLike first second ∧ first.routerId = second.routerId
  worst : ∀ diag ∈ diags, ∀ first second, IsWorst (groupRows diags diag) first →
    IsWorst (groupRows diags diag) second → LooksLike first second
  labels : ∀ diag ∈ diags, LabelsAgree diag
  costs : ∀ diag ∈ diags, CostsAgree diag

/-- Beside that, nodes that resolve one router id are named alike where a message
mentions it, and equally good parents claim the same child rows. -/
structure OrderSafe (wordChar : Char → Bool) (diags : List NodeDiag) (now : Rat) : Prop
    extends ChoicesAgree diags where
  ownerNames : ∀ first ∈ diags, ∀ second ∈ diags, ∀ routerId, first.routerId = some routerId →
    second.routerId = some routerId → shortName first ≠ shortName second →
      ∀ diag ∈ diags, ∀ flag ∈ healthFlags diag now,
        routerId * 1024 ∉ mentions wordChar 0 flag.message.toList
  claims : ∀ diag ∈ diags, diag.isRouter = false → ∀ first second, IsBestParent diag first →
    IsBestParent diag second → ∀ router ∈ diags, router.routerId = some first.routerId →
      ∀ row ∈ router.children, row.rloc16 = first.rloc16 → row.rloc16 = second.rloc16

/-! ## Routers in another order -/

section Order

variable {first second : List NodeDiag}

theorem ownedKeys_perm (rearranged : Rearranged first second) :
    (first.filterMap fun diag => diag.routerId.map fun routerId => (routerId, meshKey diag)).Perm
      (second.filterMap fun diag =>
        diag.routerId.map fun routerId => (routerId, meshKey diag)) := by
  refine rearranged.filterMap_perm fun diag _ other tables => ?_
  rw [tables.routerId, tables.meshKey]

theorem mem_ownedKeys {diags : List NodeDiag} {routerId : Int} {key : MeshKey} :
    (routerId, key) ∈ (diags.filterMap fun diag =>
        diag.routerId.map fun routerId => (routerId, meshKey diag)) ↔
      ∃ diag ∈ diags, diag.routerId = some routerId ∧ meshKey diag = key := by
  simp only [List.mem_filterMap, Option.map_eq_some_iff, Prod.mk.injEq]
  constructor
  · rintro ⟨diag, member, _, resolved, rfl, same⟩
    exact ⟨diag, member, resolved, same⟩
  · rintro ⟨diag, member, resolved, same⟩
    exact ⟨diag, member, routerId, resolved, rfl, same⟩

/-- A router id one node resolves has the same key in every order. -/
theorem targetKey_of_rearranged (rearranged : Rearranged first second) {routerId : Int}
    (uncontested : ∀ a ∈ first, ∀ b ∈ first, a.routerId = some routerId →
      b.routerId = some routerId → a = b) :
    targetKey first routerId = targetKey second routerId := by
  have owned : (ownedKeyByRouterId first).get? routerId =
      (ownedKeyByRouterId second).get? routerId := by
    refine InsertionMap.get?_ofList_of_perm (ownedKeys_perm rearranged) ?_
    intro key otherKey listed otherListed
    obtain ⟨a, aMember, aResolves, rfl⟩ := mem_ownedKeys.mp listed
    obtain ⟨b, bMember, bResolves, rfl⟩ := mem_ownedKeys.mp otherListed
    rw [uncontested a aMember b bMember aResolves bResolves]
  rw [targetKey, targetKey, owned]

theorem owned_has_of_rearranged (rearranged : Rearranged first second) (routerId : Int) :
    (ownedKeyByRouterId first).has routerId = (ownedKeyByRouterId second).has routerId := by
  rw [Bool.eq_iff_iff, InsertionMap.has_iff, InsertionMap.has_iff, ownedKeyByRouterId,
    ownedKeyByRouterId, InsertionMap.mem_keys_ofList, InsertionMap.mem_keys_ofList]
  exact ((ownedKeys_perm rearranged).map Prod.fst).mem_iff

/-- Sorting forgets the order. -/
theorem insertionSort_of_perm {values others : List Int} (perm : values.Perm others) :
    values.insertionSort (· ≤ ·) = others.insertionSort (· ≤ ·) :=
  List.Perm.eq_of_pairwise' (List.pairwise_insertionSort _ _) (List.pairwise_insertionSort _ _)
    ((List.perm_insertionSort _ _).trans (perm.trans (List.perm_insertionSort _ _).symm))

theorem foreignIds_of_rearranged (rearranged : Rearranged first second) :
    foreignIds first = foreignIds second := by
  have named : (first.flatMap NodeDiag.namedRouters).Perm
      (second.flatMap NodeDiag.namedRouters) :=
    rearranged.flatMap_perm fun diag _ other tables =>
      (tables.neighbours.map _).append ((tables.routes.filter _).map _)
  rw [foreignIds, foreignIds]
  simp only [owned_has_of_rearranged rearranged]
  exact insertionSort_of_perm (named.filter _).dedup

/-! ## Links in another order -/

variable {wordChar : Char → Bool} {now : Rat}

namespace OrderSafe

/-- A router a link is drawn to has one key. -/
theorem targetKey_eq (safe : OrderSafe wordChar first now) (rearranged : Rearranged first second)
    {routerId : Int} (referred : Referred first routerId) :
    targetKey first routerId = targetKey second routerId := by
  refine targetKey_of_rearranged rearranged fun a aMember b bMember aResolves bResolves => ?_
  by_contra differ
  exact safe.owners a aMember b bMember routerId aResolves bResolves differ referred

theorem parentsAlike (safe : OrderSafe wordChar first now) {diag : NodeDiag}
    (member : diag ∈ first) : ParentsAlike diag :=
  fun isLeaf row other best best' => (safe.parents diag member isLeaf row other best best').1

/-- Each node reports the same links. -/
theorem reportedLinks_perm (safe : OrderSafe wordChar first now)
    (rearranged : Rearranged first second) {diag other : NodeDiag} (member : diag ∈ first)
    (tables : SameTables diag other) :
    (reportedLinks first diag).Perm (reportedLinks second other) := by
  rw [reportedLinks, reportedLinks, tables.isRouter, tables.meshKey]
  cases isRouter : diag.isRouter with
  | true =>
      rw [if_pos rfl, if_pos rfl]
      have same : ∀ row ∈ diag.neighbours.filter (fun row => !row.isChild),
          rowLink (meshKey diag) (targetKey first row.routerId) .router row (meshKey diag) =
            rowLink (meshKey diag) (targetKey second row.routerId) .router row (meshKey diag) := by
        intro row listed
        obtain ⟨among, isPeer⟩ := List.mem_filter.mp listed
        have referred : Referred first row.routerId :=
          ⟨diag, member, .inl ⟨isRouter, row, among, by simpa using isPeer, rfl⟩⟩
        rw [safe.targetKey_eq rearranged referred]
      rw [List.map_congr_left same]
      exact (tables.neighbours.filter _).map _
  | false =>
      rw [if_neg Bool.false_ne_true, if_neg Bool.false_ne_true]
      rcases tables.parents with ⟨none, none'⟩ | ⟨row, row', found, found', best, best'⟩
      · rw [none, none']
        exact List.Perm.nil
      · obtain ⟨alike, target⟩ := safe.parents diag member isRouter row row' best best'
        have referred : Referred first row.routerId :=
          ⟨diag, member, .inr ⟨isRouter, row, best, rfl⟩⟩
        rw [found, found', Option.toList_some, Option.toList_some, List.map_singleton,
          List.map_singleton, safe.targetKey_eq rearranged referred, target, rowLink_eq alike]

theorem isRouter_of_parent {diag : NodeDiag} {row : Neighbour} (found : diag.parent = some row) :
    diag.isRouter = false := by
  cases isRouter : diag.isRouter with
  | false => rfl
  | true =>
      rw [NodeDiag.parent_eq_none_iff.mpr (.inl isRouter)] at found
      cases found

/-- The owner of a key is the router that resolves the id. -/
theorem routerId_of_targetKey (distinct : (first.map NodeDiag.nodeId).Nodup) {router : NodeDiag}
    (member : router ∈ first) {routerId : Int}
    (leads : targetKey first routerId = meshKey router) : router.routerId = some routerId := by
  rcases targetKey_eq_meshKey_or first routerId with ⟨owner, owns, resolved, key⟩ | ⟨_, key⟩
  · rw [← eq_of_meshKey distinct owns member (key.symm.trans leads)]
    exact resolved
  · cases key.symm.trans leads

/-- The address of a child row is found in every order or in none. -/
theorem identified_iff (safe : OrderSafe wordChar first now)
    (distinct : (first.map NodeDiag.nodeId).Nodup) (rearranged : Rearranged first second)
    {router : NodeDiag} (member : router ∈ first) {row : Neighbour} (child : row ∈ router.children) :
    row.rloc16 ∈ identifiedChildRlocs first (meshKey router) ↔
      row.rloc16 ∈ identifiedChildRlocs second (meshKey router) := by
  rw [mem_identifiedChildRlocs, mem_identifiedChildRlocs]
  constructor
  · rintro ⟨diag, among, parent, found, leads, same⟩
    obtain ⟨other, among', tables⟩ := rearranged.exists_second among
    have isLeaf := isRouter_of_parent found
    rcases tables.parents with ⟨none, _⟩ | ⟨row₁, parent', found₁, found', best, best'⟩
    · rw [none] at found
      cases found
    · cases found₁.symm.trans found
      obtain ⟨_, target⟩ := safe.parents diag among isLeaf _ _ best best'
      have referred : Referred first parent.routerId :=
        ⟨diag, among, .inr ⟨isLeaf, parent, best, rfl⟩⟩
      refine ⟨other, among', parent', found', ?_, ?_⟩
      · rw [← target, ← safe.targetKey_eq rearranged referred]
        exact leads
      · exact (safe.claims diag among isLeaf _ _ best best' router member
          (routerId_of_targetKey distinct member leads) row child same.symm).symm
  · rintro ⟨other, among', parent', found', leads, same⟩
    obtain ⟨diag, among, tables⟩ := rearranged.exists_first among'
    rcases tables.parents with ⟨_, none'⟩ | ⟨parent, row₁, found, found₁, best, best'⟩
    · rw [none'] at found'
      cases found'
    · cases found₁.symm.trans found'
      have isLeaf := isRouter_of_parent found
      obtain ⟨_, target⟩ := safe.parents diag among isLeaf _ _ best best'
      have referred : Referred first parent.routerId :=
        ⟨diag, among, .inr ⟨isLeaf, parent, best, rfl⟩⟩
      have leads' : targetKey first parent.routerId = meshKey router := by
        rw [safe.targetKey_eq rearranged referred, target]
        exact leads
      refine ⟨diag, among, parent, found, leads', ?_⟩
      have resolved := routerId_of_targetKey distinct member leads'
      rw [target] at resolved
      exact (safe.claims diag among isLeaf _ _ best' best router member resolved row child
        same.symm).symm

theorem childRows_perm (safe : OrderSafe wordChar first now)
    (distinct : (first.map NodeDiag.nodeId).Nodup) (rearranged : Rearranged first second)
    {diag other : NodeDiag} (member : diag ∈ first) (tables : SameTables diag other)
    (identified : Bool) :
    (childRows first diag identified).Perm (childRows second other identified) := by
  have same : ∀ row ∈ diag.children,
      (decide (decide (row.rloc16 ∈ identifiedChildRlocs first (meshKey diag)) = identified)) =
        decide (decide (row.rloc16 ∈ identifiedChildRlocs second (meshKey diag)) =
          identified) := by
    intro row child
    rw [decide_eq_decide.mpr (safe.identified_iff distinct rearranged member child)]
  rw [childRows, childRows, tables.meshKey, List.filter_congr same]
  exact tables.children.filter _

end OrderSafe

/-! ## Stand-ins in another order -/

theorem worstOf_isWorst {rows : List Neighbour} {row : Neighbour}
    (found : worstOf rows = some row) : IsWorst rows row := by
  have listed : ∀ {other value},
      (other, value) ∈ rows.filterMap
          (fun row => (worstReading row).map fun reading => (row, reading.1)) ↔
        other ∈ rows ∧ worstValue other = some value := by
    intro other value
    simp only [List.mem_filterMap, Option.map_eq_some_iff, Prod.mk.injEq, worstValue]
    constructor
    · rintro ⟨_, member, reading, read, rfl, rfl⟩
      exact ⟨member, reading, read, rfl⟩
    · rintro ⟨member, reading, read, rfl⟩
      exact ⟨other, member, reading, read, rfl, rfl⟩
  rw [worstOf] at found
  cases best : minBy Prod.snd (rows.filterMap fun row =>
      (worstReading row).map fun reading => (row, reading.1)) with
  | some pair =>
      obtain ⟨worst, value⟩ := pair
      simp only [best] at found
      cases found
      obtain ⟨member, own⟩ := listed.mp (minBy_mem best)
      refine ⟨member, fun other among reading read => ?_, fun none => ?_⟩
      · exact ⟨value, own, le_of_minBy best (listed.mpr ⟨among, read⟩)⟩
      · rw [none row member] at own
        cases own
  | none =>
      simp only [best] at found
      rw [minBy_eq_none_iff] at best
      refine ⟨minBy_mem found, fun other among reading read => ?_, fun _ other among => ?_⟩
      · have present := listed.mpr ⟨among, read⟩
        rw [best] at present
        cases present
      · exact le_of_minBy found among

theorem IsWorst.of_perm {rows others : List Neighbour} (perm : rows.Perm others)
    {row : Neighbour} (worst : IsWorst others row) : IsWorst rows row where
  among := perm.mem_iff.mpr worst.among
  least := fun other member => worst.least other (perm.mem_iff.mp member)
  lowest := fun none other member => worst.lowest
    (fun third listed => none third (perm.mem_iff.mpr listed)) other (perm.mem_iff.mp member)

theorem worstOf_eq_none_iff {rows : List Neighbour} : worstOf rows = none ↔ rows = [] := by
  constructor
  · intro none
    by_contra nonempty
    obtain ⟨worst, _, found⟩ := worstOf_of_ne_nil nonempty
    rw [none] at found
    cases found
  · rintro rfl
    exact worstOf_nil

/-- Both scans for the worst row find one of the worst, or there is no row. -/
theorem worstOf_of_perm {rows others : List Neighbour} (perm : rows.Perm others) :
    (worstOf rows = none ∧ worstOf others = none) ∨
      ∃ row other, worstOf rows = some row ∧ worstOf others = some other ∧
        IsWorst rows row ∧ IsWorst rows other := by
  cases found : worstOf rows with
  | none =>
      rw [worstOf_eq_none_iff] at found
      rw [found, List.nil_perm] at perm
      rw [perm]
      exact .inl ⟨rfl, worstOf_nil⟩
  | some row =>
      cases again : worstOf others with
      | none =>
          rw [worstOf_eq_none_iff] at again
          rw [again, List.perm_nil] at perm
          rw [perm, worstOf_nil] at found
          cases found
      | some other =>
          exact .inr ⟨row, other, rfl, rfl, worstOf_isWorst found,
            (worstOf_isWorst again).of_perm perm⟩

namespace OrderSafe

theorem loneRows_perm (safe : OrderSafe wordChar first now)
    (distinct : (first.map NodeDiag.nodeId).Nodup) (rearranged : Rearranged first second)
    {diag other : NodeDiag} (member : diag ∈ first) (tables : SameTables diag other) :
    (loneRows first diag).Perm (loneRows second other) := by
  have found := safe.childRows_perm distinct rearranged member tables true
  rw [loneRows, loneRows, tables.isRouter, found.isEmpty_eq]
  split
  · exact tables.children
  · exact .nil

theorem groupRows_perm (safe : OrderSafe wordChar first now)
    (distinct : (first.map NodeDiag.nodeId).Nodup) (rearranged : Rearranged first second)
    {diag other : NodeDiag} (member : diag ∈ first) (tables : SameTables diag other) :
    (groupRows first diag).Perm (groupRows second other) := by
  have found := safe.childRows_perm distinct rearranged member tables true
  rw [groupRows, groupRows, tables.isRouter, found.isEmpty_eq]
  split
  · exact safe.childRows_perm distinct rearranged member tables false
  · exact .nil

/-- Each node has the same stand-ins, up to the order of what they stand for. -/
theorem standIns_perm (safe : OrderSafe wordChar first now)
    (distinct : (first.map NodeDiag.nodeId).Nodup) (rearranged : Rearranged first second)
    {diag other : NodeDiag} (member : diag ∈ first) (tables : SameTables diag other) :
    ((standIns first diag).map fun standIn => (standIn.node, standIn.link)).Perm
      ((standIns second other).map fun standIn => (standIn.node, standIn.link)) := by
  have alone := safe.loneRows_perm distinct rearranged member tables
  have grouped := safe.groupRows_perm distinct rearranged member tables
  have nodeId : other.nodeId = diag.nodeId := by
    cases tables
    rfl
  rw [standIns_eq, standIns_eq]
  simp only [List.map_append, List.map_map]
  apply List.Perm.append
  · have same : (fun standIn : StandIn => (standIn.node, standIn.link)) ∘ lone other =
        (fun standIn => (standIn.node, standIn.link)) ∘ lone diag := by
      funext row
      simp [lone, tables.meshKey]
    rw [same]
    exact alone.map _
  · rcases worstOf_of_perm grouped with ⟨none, none'⟩ | ⟨row, row', found, found', worst, worst'⟩
    · rw [none, none']
      exact .nil
    · have alike := safe.worst diag member row row' worst worst'
      rw [found, found']
      simp [group, nodeId, tables.meshKey, grouped.length_eq, rowLink_eq alike]

theorem meshLinks_perm (safe : OrderSafe wordChar first now)
    (distinct : (first.map NodeDiag.nodeId).Nodup) (rearranged : Rearranged first second) :
    (meshLinks first).Perm (meshLinks second) := by
  rw [meshLinks, meshLinks, List.map_flatMap, List.map_flatMap]
  apply List.Perm.append
  · exact rearranged.flatMap_perm fun diag member other tables =>
      safe.reportedLinks_perm rearranged member tables
  · refine rearranged.flatMap_perm fun diag member other tables => ?_
    have drawn := (safe.standIns_perm distinct rearranged member tables).map Prod.snd
    rwa [List.map_map, List.map_map] at drawn

theorem childrenCount_eq (safe : OrderSafe wordChar first now)
    (distinct : (first.map NodeDiag.nodeId).Nodup) (rearranged : Rearranged first second)
    (key : MeshKey) : childrenCount first key = childrenCount second key :=
  ((safe.meshLinks_perm distinct rearranged).filter _).length_eq

end OrderSafe

/-! ## The header in another order -/

theorem majorityLeader_of_rearranged (rearranged : Rearranged first second) :
    majorityLeader first = majorityLeader second := by
  refine majority_of_perm (rearranged.filterMap_perm fun diag _ other tables => ?_)
  cases tables
  rfl

theorem partitionIds_perm (rearranged : Rearranged first second) :
    (first.filterMap NodeDiag.partitionId).Perm (second.filterMap NodeDiag.partitionId) := by
  refine rearranged.filterMap_perm fun diag _ other tables => ?_
  cases tables
  rfl

theorem partitionIds_of_rearranged (rearranged : Rearranged first second) :
    partitionIds first = partitionIds second :=
  insertionSort_of_perm (partitionIds_perm rearranged).dedup

theorem live_isEmpty_of_rearranged (rearranged : Rearranged first second) :
    (first.filter fun diag => diag.source = .live).isEmpty =
      (second.filter fun diag => diag.source = .live).isEmpty := by
  rw [Bool.eq_iff_iff, List.isEmpty_iff, List.isEmpty_iff, List.filter_eq_nil_iff,
    List.filter_eq_nil_iff]
  constructor
  · intro none other member
    obtain ⟨diag, among, tables⟩ := rearranged.exists_first member
    cases tables
    exact none diag among
  · intro none diag member
    obtain ⟨other, among, tables⟩ := rearranged.exists_second member
    have absent := none other among
    cases tables
    exact absent

theorem majorityPartition_of_rearranged (rearranged : Rearranged first second) :
    majorityPartition first = majorityPartition second := by
  have live : ((first.filter fun diag => diag.source = .live).filterMap
      NodeDiag.partitionId).Perm
        ((second.filter fun diag => diag.source = .live).filterMap NodeDiag.partitionId) := by
    rw [List.filterMap_filter, List.filterMap_filter]
    refine rearranged.filterMap_perm fun diag _ other tables => ?_
    cases tables
    rfl
  apply majority_of_perm
  simp only [partitionPool, live_isEmpty_of_rearranged rearranged]
  split
  · exact partitionIds_perm rearranged
  · exact live

/-- The first value that is there, where all that are there agree. -/
theorem firstPresent_of_rearranged (rearranged : Rearranged first second)
    {field : NodeDiag → Option Int}
    (same : ∀ diag other, SameTables diag other → field other = field diag)
    (agree : ∀ a ∈ first, ∀ b ∈ first, ∀ value other, field a = some value →
      field b = some other → value = other) :
    firstPresent field first = firstPresent field second := by
  rw [firstPresent_eq, firstPresent_eq]
  refine head?_of_perm (rearranged.filterMap_perm fun diag _ other tables =>
    (same diag other tables).symm) ?_
  intro value listed other otherListed
  obtain ⟨a, aMember, aValue⟩ := List.mem_filterMap.mp listed
  obtain ⟨b, bMember, bValue⟩ := List.mem_filterMap.mp otherListed
  exact agree a aMember b bMember value other aValue bValue

/-! ## Names in another order -/

/-- A text resolves alike under names that agree on what it mentions. -/
theorem resolveFrom_congr {names others : Int → Option String} {used : Nat} {text : List Char}
    (agree : ∀ rloc16 ∈ mentions wordChar used text, names rloc16 = others rloc16) :
    resolveFrom wordChar names used text = resolveFrom wordChar others used text := by
  induction text generalizing used with
  | nil => cases used <;> rfl
  | cons c rest ih =>
      cases used with
      | succ used => exact ih agree
      | zero =>
          cases mention : mention? wordChar (c :: rest) with
          | none =>
              simp only [mentions, mention] at agree
              simp only [resolveFrom, mention, ih agree]
          | some digits =>
              simp only [mentions, mention, List.mem_cons, forall_eq_or_imp] at agree
              simp only [resolveFrom, mention, ih agree.2, named, agree.1]

/-- The name a node has in messages, under its address. -/
def nameEntry (node : MeshNode) : Option (Int × String) :=
  node.rloc16.map fun rloc16 => (rloc16, .ofList (beforeParenthesis node.name.toList))

/-- What stands in for child rows is named by its address. -/
theorem name_of_standIn {diags : List NodeDiag} {entry : Int × String}
    (listed : entry ∈ ((diags.flatMap (standIns diags)).map StandIn.node).filterMap nameEntry) :
    entry.2 = .ofList (beforeParenthesis ("Child 0x" ++ hexText 4 entry.1).toList) := by
  obtain ⟨node, member, named⟩ := List.mem_filterMap.mp listed
  obtain ⟨standIn, drawn, rfl⟩ := List.mem_map.mp member
  obtain ⟨diag, _, own⟩ := List.mem_flatMap.mp drawn
  rcases key_of_mem_standIns own with ⟨row, _, rfl⟩ | ⟨worst, rfl⟩
  · cases named
    rfl
  · cases named

theorem name_of_ownedNode {diags : List NodeDiag} {entry : Int × String}
    (listed : entry ∈ (diags.map (ownedNode diags)).filterMap nameEntry) :
    ∃ diag ∈ diags, ∃ routerId, diag.routerId = some routerId ∧ routerId * 1024 = entry.1 ∧
      entry.2 = shortName diag := by
  obtain ⟨node, member, named⟩ := List.mem_filterMap.mp listed
  obtain ⟨diag, among, rfl⟩ := List.mem_map.mp member
  obtain ⟨rloc16, located, rfl⟩ := Option.map_eq_some_iff.mp named
  obtain ⟨routerId, resolved, shifted⟩ := Option.map_eq_some_iff.mp located
  exact ⟨diag, among, routerId, resolved, shifted, rfl⟩

theorem namesByRloc_get? (diags : List NodeDiag) (rloc16 : Int) :
    (namesByRloc (meshNodes diags)).get? rloc16 =
      ((InsertionMap.ofList
          (((diags.flatMap (standIns diags)).map StandIn.node).filterMap nameEntry)).get?
            rloc16).or
        (((InsertionMap.ofList
            (((foreignIds diags).map (foreignNode diags)).filterMap nameEntry)).get? rloc16).or
          ((InsertionMap.ofList ((diags.map (ownedNode diags)).filterMap nameEntry)).get?
            rloc16)) := by
  change (InsertionMap.ofList ((meshNodes diags).filterMap nameEntry)).get? rloc16 = _
  rw [meshNodes, List.filterMap_append, List.filterMap_append,
    InsertionMap.get?_ofList_append, InsertionMap.get?_ofList_append]

namespace OrderSafe

theorem ownedNode_eq (safe : OrderSafe wordChar first now)
    (distinct : (first.map NodeDiag.nodeId).Nodup) (rearranged : Rearranged first second)
    {diag other : NodeDiag} (tables : SameTables diag other) :
    ownedNode first diag = ownedNode second other := by
  have rloc16 : other.rloc16 = diag.rloc16 := by
    rw [NodeDiag.rloc16, NodeDiag.rloc16, tables.routerId]
  rw [ownedNode, ownedNode, tables.meshKey, tables.routerId, rloc16,
    majorityLeader_of_rearranged rearranged, safe.childrenCount_eq distinct rearranged]
  cases tables
  rfl

theorem foreignNodes_eq (safe : OrderSafe wordChar first now)
    (distinct : (first.map NodeDiag.nodeId).Nodup) (rearranged : Rearranged first second) :
    (foreignIds first).map (foreignNode first) = (foreignIds second).map (foreignNode second) := by
  have same : foreignNode first = foreignNode second := by
    funext routerId
    rw [foreignNode, foreignNode, majorityLeader_of_rearranged rearranged,
      safe.childrenCount_eq distinct rearranged]
  rw [same, foreignIds_of_rearranged rearranged]

theorem standInNodes_perm (safe : OrderSafe wordChar first now)
    (distinct : (first.map NodeDiag.nodeId).Nodup) (rearranged : Rearranged first second) :
    ((first.flatMap (standIns first)).map StandIn.node).Perm
      ((second.flatMap (standIns second)).map StandIn.node) := by
  rw [List.map_flatMap, List.map_flatMap]
  refine rearranged.flatMap_perm fun diag member other tables => ?_
  have drawn := (safe.standIns_perm distinct rearranged member tables).map Prod.fst
  rwa [List.map_map, List.map_map] at drawn

theorem meshNodes_perm (safe : OrderSafe wordChar first now)
    (distinct : (first.map NodeDiag.nodeId).Nodup) (rearranged : Rearranged first second) :
    (meshNodes first).Perm (meshNodes second) := by
  rw [meshNodes, meshNodes, safe.foreignNodes_eq distinct rearranged]
  refine List.Perm.append (List.Perm.append ?_ (.refl _)) ?_
  · exact rearranged.map_perm fun diag _ other tables =>
      safe.ownedNode_eq distinct rearranged tables
  · exact safe.standInNodes_perm distinct rearranged

/-- An address has the same name where the nodes that resolve it share theirs. -/
theorem names_eq (safe : OrderSafe wordChar first now)
    (distinct : (first.map NodeDiag.nodeId).Nodup) (rearranged : Rearranged first second)
    {rloc16 : Int}
    (agree : ∀ a ∈ first, ∀ b ∈ first, ∀ routerId, a.routerId = some routerId →
      b.routerId = some routerId → routerId * 1024 = rloc16 → shortName a = shortName b) :
    (namesByRloc (meshNodes first)).get? rloc16 =
      (namesByRloc (meshNodes second)).get? rloc16 := by
  have children : (InsertionMap.ofList
      (((first.flatMap (standIns first)).map StandIn.node).filterMap nameEntry)).get? rloc16 =
        (InsertionMap.ofList
          (((second.flatMap (standIns second)).map StandIn.node).filterMap nameEntry)).get?
            rloc16 := by
    refine InsertionMap.get?_ofList_of_perm
      ((safe.standInNodes_perm distinct rearranged).filterMap nameEntry) ?_
    intro name other listed otherListed
    exact (name_of_standIn listed).trans (name_of_standIn otherListed).symm
  have owned : (InsertionMap.ofList ((first.map (ownedNode first)).filterMap nameEntry)).get?
      rloc16 =
        (InsertionMap.ofList ((second.map (ownedNode second)).filterMap nameEntry)).get?
          rloc16 := by
    refine InsertionMap.get?_ofList_of_perm
      (.filterMap nameEntry (rearranged.map_perm fun diag _ other tables =>
        safe.ownedNode_eq distinct rearranged tables)) ?_
    intro name other listed otherListed
    obtain ⟨a, aMember, routerId, aResolves, shifted, named⟩ := name_of_ownedNode listed
    obtain ⟨b, bMember, otherId, bResolves, otherShifted, otherNamed⟩ :=
      name_of_ownedNode otherListed
    have sameId : otherId = routerId := by
      dsimp only at shifted otherShifted
      omega
    subst sameId
    exact named.trans ((agree a aMember b bMember _ aResolves bResolves shifted).trans
      otherNamed.symm)
  rw [namesByRloc_get?, namesByRloc_get?, children, owned,
    safe.foreignNodes_eq distinct rearranged]

/-- The flags of the mesh are the same. -/
theorem meshFlags_perm (safe : OrderSafe wordChar first now)
    (distinct : (first.map NodeDiag.nodeId).Nodup) (rearranged : Rearranged first second) :
    (meshFlags wordChar first now).Perm (meshFlags wordChar second now) := by
  have flagged : (first.flatMap fun diag => healthFlags diag now).Perm
      (second.flatMap fun diag => healthFlags diag now) :=
    rearranged.flatMap_perm fun diag member other tables =>
      tables.healthFlags_perm (safe.labels diag member) (safe.parentsAlike member)
        (safe.costs diag member) now
  have resolved : ∀ flag ∈ first.flatMap fun diag => healthFlags diag now,
      { flag with
        message := resolveRlocMentions wordChar flag.message
          (namesByRloc (meshNodes first)).get? } =
        { flag with
          message := resolveRlocMentions wordChar flag.message
            (namesByRloc (meshNodes second)).get? } := by
    intro flag listed
    obtain ⟨diag, member, raised⟩ := List.mem_flatMap.mp listed
    have text : resolveFrom wordChar (namesByRloc (meshNodes first)).get? 0 flag.message.toList =
        resolveFrom wordChar (namesByRloc (meshNodes second)).get? 0 flag.message.toList := by
      refine resolveFrom_congr fun rloc16 mentioned => ?_
      refine safe.names_eq distinct rearranged fun a aMember b bMember routerId aResolves
        bResolves shifted => ?_
      by_contra differ
      apply safe.ownerNames a aMember b bMember routerId aResolves bResolves differ diag member
        flag raised
      rw [shifted]
      exact mentioned
    rw [resolveRlocMentions, resolveRlocMentions, text]
  rw [meshFlags, meshFlags, List.map_congr_left resolved]
  exact flagged.map _

theorem unattributedWarning_eq (safe : OrderSafe wordChar first now)
    (distinct : (first.map NodeDiag.nodeId).Nodup) (rearranged : Rearranged first second)
    {diag other : NodeDiag} (member : diag ∈ first) (tables : SameTables diag other) :
    unattributedWarning first diag = unattributedWarning second other := by
  have excess := safe.childRows_perm distinct rearranged member tables false
  have found := safe.childRows_perm distinct rearranged member tables true
  have nodeId : other.nodeId = diag.nodeId := by
    cases tables
    rfl
  rw [unattributedWarning, unattributedWarning, tables.isRouter, tables.routerId, nodeId,
    excess.isEmpty_eq, found.isEmpty_eq, excess.length_eq, tables.children.length_eq]

theorem meshWarnings_perm (safe : OrderSafe wordChar first now)
    (distinct : (first.map NodeDiag.nodeId).Nodup) (rearranged : Rearranged first second) :
    (meshWarnings first).Perm (meshWarnings second) := by
  apply List.Perm.append
  · refine rearranged.flatMap_perm fun diag _ other tables => ?_
    cases tables
    exact .refl _
  · exact rearranged.filterMap_perm fun diag member other tables =>
      safe.unattributedWarning_eq distinct rearranged member tables

end OrderSafe

theorem disagreements_perm (rearranged : Rearranged first second) :
    (disagreements first).Perm (disagreements second) := by
  rw [disagreements, disagreements, majorityPartition_of_rearranged rearranged,
    partitionIds_of_rearranged rearranged]
  split
  · refine rearranged.filterMap_perm fun diag _ other tables => ?_
    cases tables
    rfl
  · split
    · refine rearranged.filterMap_perm fun diag _ other tables => ?_
      cases tables
      rfl
    · exact .nil

theorem firstNetworkName_of_rearranged (rearranged : Rearranged first second)
    (agree : ∀ a ∈ first, ∀ b ∈ first, a.networkName ≠ "" → b.networkName ≠ "" →
      a.networkName = b.networkName) :
    firstNetworkName first = firstNetworkName second := by
  have names : (first.map NodeDiag.networkName).Perm (second.map NodeDiag.networkName) := by
    refine rearranged.map_perm fun diag _ other tables => ?_
    cases tables
    rfl
  rw [firstNetworkName_eq, firstNetworkName_eq, head?_of_perm (names.filter _)]
  intro name listed other otherListed
  obtain ⟨member, nonempty⟩ := List.mem_filter.mp listed
  obtain ⟨otherMember, otherNonempty⟩ := List.mem_filter.mp otherListed
  obtain ⟨a, aMember, rfl⟩ := List.mem_map.mp member
  obtain ⟨b, bMember, rfl⟩ := List.mem_map.mp otherMember
  exact agree a aMember b bMember (by simpa using nonempty) (by simpa using otherNonempty)

/-- Where no scan has a choice that shows, the mesh is the same in every order. -/
theorem OrderSafe.orderFree (safe : OrderSafe wordChar first now)
    (distinct : (first.map NodeDiag.nodeId).Nodup) : OrderFree wordChar first now := by
  intro other rearranged
  have unreadable : (buildMesh wordChar first now).unreadable.Perm
      (buildMesh wordChar other now).unreadable := by
    refine rearranged.filterMap_perm fun diag _ again tables => ?_
    cases tables
    rfl
  constructor
  · exact firstNetworkName_of_rearranged rearranged safe.networkNames
  · refine firstPresent_of_rearranged rearranged (fun diag again tables => ?_) safe.channels
    cases tables
    rfl
  · refine firstPresent_of_rearranged rearranged (fun diag again tables => ?_) safe.panIds
    cases tables
    rfl
  · exact partitionIds_of_rearranged rearranged
  · exact majorityPartition_of_rearranged rearranged
  · exact majorityLeader_of_rearranged rearranged
  · exact fun _ => (safe.meshNodes_perm distinct rearranged).mem_iff
  · exact fun _ => (safe.meshLinks_perm distinct rearranged).mem_iff
  · exact fun _ => (safe.meshFlags_perm distinct rearranged).mem_iff
  · exact fun _ => unreadable.mem_iff
  · exact fun _ => (disagreements_perm rearranged).mem_iff
  · exact fun _ => (safe.meshWarnings_perm distinct rearranged).mem_iff

end Order

end IndigoMatter.Plugin
