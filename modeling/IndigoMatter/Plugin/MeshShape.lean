import IndigoMatter.Plugin.ThreadMesh

/-!
# The shape of the mesh

What holds of the nodes and links of a mesh for all tables: both ends of a link
are nodes, and a router id only one device resolves is one node.  Keys can only
repeat among child rows drawn on their own.

A device that is diagnosed itself and is also a child row of its parent should be
drawn once.  The child row is looked up by the address in the device's parent row,
which is the address of the router, so the row of a real child is never found: the
device is drawn a second time and counted twice among the children of its router.
-/

namespace IndigoMatter.Plugin

open IndigoMatter.Library

/-! ## What is claimed of a mesh -/

/-- A device's parent row leads to a router. -/
def LeadsTo (diags : List NodeDiag) (diag router : NodeDiag) : Prop :=
  ∃ parent, diag.parent = some parent ∧ targetKey diags parent.routerId = meshKey router

instance (diags : List NodeDiag) (diag router : NodeDiag) : Decidable (LeadsTo diags diag router) :=
  decidable_of_iff (diag.parent.any fun parent =>
    targetKey diags parent.routerId = meshKey router) (by simp [LeadsTo, Option.any_eq_true])

/-- The devices whose parent row leads to a router. -/
def claimants (diags : List NodeDiag) (router : NodeDiag) : List NodeDiag :=
  diags.filter fun diag => LeadsTo diags diag router

/-- The nodes a device is drawn as that is a child row of a router: its own, and what
stands in for the row. -/
def drawings (diags : List NodeDiag) (router diag : NodeDiag) (row : Neighbour) :
    List MeshNode :=
  ((meshNodes diags).filter fun node => node.key = meshKey diag) ++
    ((standIns diags router).filter fun standIn => row ∈ standIn.rows).map StandIn.node

/-- Every child row is a diagnosed device whose parent row leads back, and every such
device has one; `address` is the address each device has on the network. -/
def MutuallyConsistent (address : Int → Option Int) (diags : List NodeDiag)
    (router : NodeDiag) : Prop :=
  ((claimants diags router).map fun diag => address diag.nodeId).Perm
    (router.children.map fun row => some row.rloc16)

/-- A well-formed mesh that counts no child twice. -/
structure MeshWellFormed (address : Int → Option Int) (diags : List NodeDiag) (mesh : Mesh) :
    Prop where
  distinctKeys : (mesh.nodes.map MeshNode.key).Nodup
  endsAreNodes : ∀ link ∈ mesh.links,
    link.a ∈ mesh.nodes.map MeshNode.key ∧ link.b ∈ mesh.nodes.map MeshNode.key
  routersAreNodes : ∀ routerId,
    (diags.filter fun diag => diag.routerId = some routerId).length = 1 →
      (mesh.nodes.filter fun node => node.routerId = some routerId).length = 1
  drawnOnce : ∀ router ∈ diags, router.isRouter = true → ∀ diag ∈ diags,
    LeadsTo diags diag router → ∀ row ∈ router.children,
      address diag.nodeId = some row.rloc16 → (drawings diags router diag row).length = 1
  countsRows : ∀ router ∈ diags, router.isRouter = true → MutuallyConsistent address diags router →
    ∀ node ∈ mesh.nodes, node.key = meshKey router →
      node.childrenCount = router.children.length

/-! ## The stand-ins -/

/-- The child rows of a node that are drawn on their own. -/
def loneRows (diags : List NodeDiag) (diag : NodeDiag) : List Neighbour :=
  if diag.isRouter ∧ (childRows diags diag true).isEmpty then diag.children else []

/-- The child rows of a node that are drawn as one. -/
def groupRows (diags : List NodeDiag) (diag : NodeDiag) : List Neighbour :=
  if diag.isRouter ∧ ¬(childRows diags diag true).isEmpty then childRows diags diag false else []

theorem mem_identifiedChildRlocs {diags : List NodeDiag} {router : NodeDiag} {rloc16 : Int} :
    rloc16 ∈ identifiedChildRlocs diags (meshKey router) ↔
      ∃ diag ∈ diags, ∃ parent, diag.parent = some parent ∧
        targetKey diags parent.routerId = meshKey router ∧ parent.rloc16 = rloc16 := by
  simp only [identifiedChildRlocs, List.mem_map, List.mem_filter, List.mem_filterMap,
    decide_eq_true_eq]
  constructor
  · rintro ⟨parent, ⟨⟨diag, member, found⟩, leads⟩, same⟩
    exact ⟨diag, member, parent, found, leads, same⟩
  · rintro ⟨diag, member, parent, found, leads, same⟩
    exact ⟨parent, ⟨⟨diag, member, found⟩, leads⟩, same⟩

theorem mem_childRows {diags : List NodeDiag} {diag : NodeDiag} {identified : Bool}
    {row : Neighbour} :
    row ∈ childRows diags diag identified ↔ row ∈ diag.children ∧
      decide (row.rloc16 ∈ identifiedChildRlocs diags (meshKey diag)) = identified := by
  simp [childRows]

theorem childRows_false_of_empty {diags : List NodeDiag} {diag : NodeDiag}
    (none : (childRows diags diag true).isEmpty = true) :
    childRows diags diag false = diag.children := by
  apply List.filter_eq_self.mpr
  intro row member
  have unfound : row ∉ childRows diags diag true := by
    rw [List.isEmpty_iff.mp none]
    exact List.not_mem_nil
  rw [mem_childRows] at unfound
  simpa [member] using unfound

theorem worstOf_nil : worstOf [] = none := rfl

/-- Some row of a nonempty list is the worst. -/
theorem worstOf_of_ne_nil {rows : List Neighbour} (nonempty : rows ≠ []) :
    ∃ worst ∈ rows, worstOf rows = some worst := by
  rw [worstOf]
  cases best : minBy Prod.snd (rows.filterMap fun row =>
      (worstReading row).map fun reading => (row, reading.1)) with
  | some pair =>
      obtain ⟨row, member, reading⟩ := List.mem_filterMap.mp (minBy_mem best)
      obtain ⟨value, _, rfl⟩ := Option.map_eq_some_iff.mp reading
      exact ⟨row, member, rfl⟩
  | none =>
      cases least : minBy Neighbour.rloc16 rows with
      | some row => exact ⟨row, minBy_mem least, rfl⟩
      | none => exact absurd (minBy_eq_none_iff.mp least) nonempty

/-- The stand-ins of a node: its lone rows, then the one for its grouped rows. -/
theorem standIns_eq (diags : List NodeDiag) (diag : NodeDiag) :
    standIns diags diag = (loneRows diags diag).map (lone diag) ++
      (worstOf (groupRows diags diag)).toList.map (group diag (groupRows diags diag)) := by
  rw [standIns, loneRows, groupRows]
  by_cases router : diag.isRouter = true
  · by_cases none : (childRows diags diag true).isEmpty = true
    · simp [router, none, childRows_false_of_empty none, worstOf_nil]
    · simp [router, none]
  · simp [router, worstOf_nil]

/-- A child row of a router is drawn on its own or with others unless it was found. -/
theorem mem_drawnRows_iff {diags : List NodeDiag} {router : NodeDiag}
    (isRouter : router.isRouter = true) {row : Neighbour} :
    (∃ standIn ∈ standIns diags router, row ∈ standIn.rows) ↔
      row ∈ childRows diags router false := by
  by_cases none : (childRows diags router true).isEmpty = true
  · simp [standIns_eq, loneRows, groupRows, isRouter, none, worstOf_nil, lone,
      childRows_false_of_empty none]
  · simp only [standIns_eq, loneRows, groupRows, isRouter, none, and_false, if_false, and_true,
      if_true, not_false_eq_true, List.map_nil, List.nil_append, Bool.false_eq_true]
    constructor
    · rintro ⟨standIn, member, drawn⟩
      obtain ⟨worst, _, rfl⟩ := List.mem_map.mp member
      exact drawn
    · intro member
      obtain ⟨worst, _, found⟩ := worstOf_of_ne_nil (List.ne_nil_of_mem member)
      exact ⟨group router (childRows diags router false) worst, by simp [found], member⟩

/-! ## Keys -/

theorem keys_meshNodes (diags : List NodeDiag) :
    (meshNodes diags).map MeshNode.key =
      diags.map meshKey ++ (foreignIds diags).map MeshKey.router ++
        (diags.flatMap (standIns diags)).map fun standIn => standIn.node.key := by
  simp [meshNodes, ownedNode, foreignNode, Function.comp_def]

theorem nodup_meshKeys {diags : List NodeDiag} (distinct : (diags.map NodeDiag.nodeId).Nodup) :
    (diags.map meshKey).Nodup := by
  have injective : Function.Injective MeshKey.node := fun _ _ same => MeshKey.node.inj same
  have mapped := distinct.map injective
  rwa [List.map_map] at mapped

theorem nodup_foreignIds (diags : List NodeDiag) : (foreignIds diags).Nodup :=
  (List.perm_insertionSort _ _).nodup_iff.mpr (List.nodup_dedup _)

/-- The keys of the stand-ins, lone rows first. -/
theorem standInKeys_perm (diags : List NodeDiag) :
    ((diags.flatMap (standIns diags)).map fun standIn => standIn.node.key).Perm
      ((diags.flatMap (loneRows diags)).map (fun row => MeshKey.child row.rloc16) ++
        diags.flatMap fun diag =>
          (worstOf (groupRows diags diag)).toList.map fun _ =>
            MeshKey.unattributed diag.nodeId) := by
  have split : (diags.flatMap (standIns diags)).map (fun standIn => standIn.node.key) =
      diags.flatMap fun diag =>
        (loneRows diags diag).map (fun row => MeshKey.child row.rloc16) ++
          (worstOf (groupRows diags diag)).toList.map fun _ =>
            MeshKey.unattributed diag.nodeId := by
    rw [List.map_flatMap]
    congr 1
    funext diag
    rw [standIns_eq]
    simp [lone, group, childNode, Function.comp_def]
  rw [split, List.map_flatMap]
  exact (List.flatMap_append_perm _ _ _).symm

/-- Of what each element may give, one key for each element at most. -/
theorem flatMap_toList_sublist {α β γ : Type} (found : α → Option β) (key : α → γ)
    (items : List α) :
    (items.flatMap fun item => (found item).toList.map fun _ => key item).Sublist
      (items.map key) := by
  induction items with
  | nil => exact .slnil
  | cons item rest ih =>
      rw [List.flatMap_cons, List.map_cons]
      cases found item with
      | none => exact ih.cons _
      | some value => exact ih.cons_cons _

theorem nodup_groupKeys {diags : List NodeDiag} (distinct : (diags.map NodeDiag.nodeId).Nodup) :
    (diags.flatMap fun diag => (worstOf (groupRows diags diag)).toList.map fun _ =>
      MeshKey.unattributed diag.nodeId).Nodup := by
  have injective : Function.Injective MeshKey.unattributed :=
    fun _ _ same => MeshKey.unattributed.inj same
  have mapped := distinct.map injective
  rw [List.map_map] at mapped
  exact mapped.sublist (flatMap_toList_sublist _ _ diags)

theorem nodup_standInKeys_iff {diags : List NodeDiag}
    (distinct : (diags.map NodeDiag.nodeId).Nodup) :
    ((diags.flatMap (standIns diags)).map fun standIn => standIn.node.key).Nodup ↔
      ((diags.flatMap (loneRows diags)).map Neighbour.rloc16).Nodup := by
  have injective : Function.Injective MeshKey.child := fun _ _ same => MeshKey.child.inj same
  have lone : ((diags.flatMap (loneRows diags)).map fun row => MeshKey.child row.rloc16) =
      ((diags.flatMap (loneRows diags)).map Neighbour.rloc16).map MeshKey.child := by
    rw [List.map_map]
    rfl
  rw [(standInKeys_perm diags).nodup_iff, List.nodup_append, lone,
    List.nodup_map_iff injective]
  constructor
  · exact fun split => split.1
  · intro separate
    refine ⟨separate, nodup_groupKeys distinct, ?_⟩
    intro first firstMember second secondMember same
    obtain ⟨_, _, rfl⟩ := List.mem_map.mp firstMember
    obtain ⟨_, _, grouped⟩ := List.mem_flatMap.mp secondMember
    obtain ⟨_, _, rfl⟩ := List.mem_map.mp grouped
    cases same

theorem key_of_mem_standIns {diags : List NodeDiag} {diag : NodeDiag} {standIn : StandIn}
    (member : standIn ∈ standIns diags diag) :
    (∃ row ∈ loneRows diags diag, standIn = lone diag row) ∨
      ∃ worst, standIn = group diag (groupRows diags diag) worst := by
  rw [standIns_eq, List.mem_append, List.mem_map, List.mem_map] at member
  rcases member with ⟨row, drawn, rfl⟩ | ⟨worst, _, rfl⟩
  · exact .inl ⟨row, drawn, rfl⟩
  · exact .inr ⟨worst, rfl⟩

/-- The keys are distinct when those of the lone rows are. -/
theorem nodup_keys_meshNodes_iff {diags : List NodeDiag}
    (distinct : (diags.map NodeDiag.nodeId).Nodup) :
    ((meshNodes diags).map MeshNode.key).Nodup ↔
      ((diags.flatMap (loneRows diags)).map Neighbour.rloc16).Nodup := by
  have foreign : ((foreignIds diags).map MeshKey.router).Nodup :=
    (nodup_foreignIds diags).map fun _ _ same => MeshKey.router.inj same
  rw [keys_meshNodes, List.nodup_append, nodup_standInKeys_iff distinct]
  constructor
  · exact fun split => split.2.1
  · intro separate
    refine ⟨?_, separate, ?_⟩
    · rw [List.nodup_append]
      refine ⟨nodup_meshKeys distinct, foreign, ?_⟩
      intro first firstMember second secondMember same
      obtain ⟨_, _, rfl⟩ := List.mem_map.mp firstMember
      obtain ⟨_, _, rfl⟩ := List.mem_map.mp secondMember
      cases same
    · intro first firstMember second secondMember same
      obtain ⟨standIn, drawn, rfl⟩ := List.mem_map.mp secondMember
      obtain ⟨diag, _, drawn⟩ := List.mem_flatMap.mp drawn
      rcases List.mem_append.mp firstMember with owned | foreign
      · obtain ⟨_, _, rfl⟩ := List.mem_map.mp owned
        rcases key_of_mem_standIns drawn with ⟨row, _, rfl⟩ | ⟨worst, rfl⟩
        · cases same
        · cases same
      · obtain ⟨_, _, rfl⟩ := List.mem_map.mp foreign
        rcases key_of_mem_standIns drawn with ⟨row, _, rfl⟩ | ⟨worst, rfl⟩
        · cases same
        · cases same

/-! ## Both ends of a link -/

theorem targetKey_eq_meshKey_or (diags : List NodeDiag) (routerId : Int) :
    (∃ diag ∈ diags, diag.routerId = some routerId ∧
      targetKey diags routerId = meshKey diag) ∨
      ((ownedKeyByRouterId diags).get? routerId = none ∧
        targetKey diags routerId = .router routerId) := by
  cases owned : (ownedKeyByRouterId diags).get? routerId with
  | none => exact .inr ⟨rfl, by simp [targetKey, owned]⟩
  | some key =>
      obtain ⟨diag, member, resolved⟩ := List.mem_filterMap.mp
        (InsertionMap.mem_of_get?_ofList owned)
      obtain ⟨_, found, same⟩ := Option.map_eq_some_iff.mp resolved
      cases same
      exact .inl ⟨diag, member, found, by simp [targetKey, owned]⟩

/-- The router of every row is a node. -/
theorem targetKey_mem {diags : List NodeDiag} {diag : NodeDiag} (member : diag ∈ diags)
    {row : Neighbour} (listed : row ∈ diag.neighbours) :
    targetKey diags row.routerId ∈ (meshNodes diags).map MeshNode.key := by
  rw [keys_meshNodes]
  apply List.mem_append_left
  rcases targetKey_eq_meshKey_or diags row.routerId with ⟨owner, owns, _, same⟩ | ⟨free, same⟩
  · rw [same]
    exact List.mem_append_left _ (List.mem_map_of_mem owns)
  · rw [same]
    apply List.mem_append_right
    apply List.mem_map_of_mem
    rw [foreignIds, List.mem_insertionSort, List.mem_dedup, List.mem_filter]
    refine ⟨List.mem_flatMap.mpr ⟨diag, member, ?_⟩, ?_⟩
    · exact List.mem_append_left _ (List.mem_map_of_mem listed)
    · simp [InsertionMap.has, free]

theorem NodeDiag.parent_mem {diag : NodeDiag} {parent : Neighbour}
    (found : diag.parent = some parent) : parent ∈ diag.neighbours := by
  rw [NodeDiag.parent] at found
  split at found
  · cases found
  · have candidate : parent ∈ diag.parentCandidates := maxBy_mem found
    rw [NodeDiag.parentCandidates] at candidate
    split at candidate
    · exact (List.mem_filter.mp candidate).1
    · exact (List.mem_filter.mp (List.mem_filter.mp candidate).1).1

theorem meshKey_mem {diags : List NodeDiag} {diag : NodeDiag} (member : diag ∈ diags) :
    meshKey diag ∈ (meshNodes diags).map MeshNode.key := by
  rw [keys_meshNodes]
  exact List.mem_append_left _ (List.mem_append_left _ (List.mem_map_of_mem member))

/-- A link a node reports goes from the node to the router of one of its rows. -/
theorem ends_of_mem_reportedLinks {diags : List NodeDiag} {diag : NodeDiag} {link : MeshLink}
    (member : link ∈ reportedLinks diags diag) :
    link.a = meshKey diag ∧ ∃ row ∈ diag.neighbours, link.b = targetKey diags row.routerId := by
  rw [reportedLinks] at member
  split at member
  · obtain ⟨row, listed, rfl⟩ := List.mem_map.mp member
    exact ⟨rfl, row, (List.mem_filter.mp listed).1, rfl⟩
  · obtain ⟨row, found, rfl⟩ := List.mem_map.mp member
    exact ⟨rfl, row, NodeDiag.parent_mem (Option.mem_toList.mp found), rfl⟩

/-- A stand-in is linked to its router. -/
theorem ends_of_mem_standIns {diags : List NodeDiag} {diag : NodeDiag} {standIn : StandIn}
    (member : standIn ∈ standIns diags diag) :
    standIn.link.a = standIn.node.key ∧ standIn.link.b = meshKey diag ∧
      standIn.link.kind = .child := by
  rcases key_of_mem_standIns member with ⟨row, _, rfl⟩ | ⟨worst, rfl⟩
  · exact ⟨rfl, rfl, rfl⟩
  · exact ⟨rfl, rfl, rfl⟩

/-- Both ends of every link are nodes. -/
theorem meshLinks_ends {diags : List NodeDiag} {link : MeshLink} (member : link ∈ meshLinks diags) :
    link.a ∈ (meshNodes diags).map MeshNode.key ∧ link.b ∈ (meshNodes diags).map MeshNode.key := by
  rcases List.mem_append.mp member with reported | drawn
  · obtain ⟨diag, among, listed⟩ := List.mem_flatMap.mp reported
    obtain ⟨a, row, present, b⟩ := ends_of_mem_reportedLinks listed
    rw [a, b]
    exact ⟨meshKey_mem among, targetKey_mem among present⟩
  · obtain ⟨standIn, listed, rfl⟩ := List.mem_map.mp drawn
    obtain ⟨diag, among, standsIn⟩ := List.mem_flatMap.mp listed
    obtain ⟨a, b, _⟩ := ends_of_mem_standIns standsIn
    rw [a, b]
    refine ⟨?_, meshKey_mem among⟩
    rw [keys_meshNodes]
    exact List.mem_append_right _ (List.mem_map_of_mem listed)

/-! ## Routers -/

theorem not_mem_foreignIds {diags : List NodeDiag} {diag : NodeDiag} {routerId : Int}
    (member : diag ∈ diags) (resolved : diag.routerId = some routerId) :
    routerId ∉ foreignIds diags := by
  intro foreign
  rw [foreignIds, List.mem_insertionSort, List.mem_dedup, List.mem_filter] at foreign
  have owned : routerId ∈ (ownedKeyByRouterId diags).keys := by
    rw [ownedKeyByRouterId, InsertionMap.mem_keys_ofList, List.mem_map]
    refine ⟨(routerId, meshKey diag), List.mem_filterMap.mpr ⟨diag, member, ?_⟩, rfl⟩
    rw [resolved]
    rfl
  rw [InsertionMap.has_iff.mpr owned] at foreign
  simp at foreign

/-- A router id that some device resolves is the nodes of the devices that do. -/
theorem routerNodes_of_resolved {diags : List NodeDiag} {routerId : Int} {diag : NodeDiag}
    (member : diag ∈ diags) (resolved : diag.routerId = some routerId) :
    (meshNodes diags).filter (fun node => node.routerId = some routerId) =
      (diags.filter fun diag => diag.routerId = some routerId).map (ownedNode diags) := by
  have foreign : ((foreignIds diags).map (foreignNode diags)).filter
      (fun node => node.routerId = some routerId) = [] := by
    rw [List.filter_eq_nil_iff]
    intro node listed
    obtain ⟨other, among, rfl⟩ := List.mem_map.mp listed
    have differs : other ≠ routerId := by
      rintro rfl
      exact not_mem_foreignIds member resolved among
    simpa [foreignNode] using differs
  have children : ((diags.flatMap (standIns diags)).map StandIn.node).filter
      (fun node => node.routerId = some routerId) = [] := by
    rw [List.filter_eq_nil_iff]
    intro node listed
    obtain ⟨standIn, among, rfl⟩ := List.mem_map.mp listed
    obtain ⟨owner, _, drawn⟩ := List.mem_flatMap.mp among
    rcases key_of_mem_standIns drawn with ⟨row, _, rfl⟩ | ⟨worst, rfl⟩
    · simp [lone, childNode]
    · simp [group, childNode]
  rw [meshNodes, List.filter_append, List.filter_append, foreign, children, List.append_nil,
    List.append_nil, List.filter_map]
  rfl

/-! ## How often a device is drawn -/

/-- A device has one node of its own. -/
theorem ownNodes_length {diags : List NodeDiag} (distinct : (diags.map NodeDiag.nodeId).Nodup)
    {diag : NodeDiag} (member : diag ∈ diags) :
    ((meshNodes diags).filter fun node => node.key = meshKey diag).length = 1 := by
  have counted : ((meshNodes diags).filter fun node => node.key = meshKey diag).length =
      ((meshNodes diags).map MeshNode.key).count (meshKey diag) := by
    rw [List.count, List.countP_map, List.countP_eq_length_filter]
    rfl
  have owned : (diags.map meshKey).count (meshKey diag) = 1 :=
    List.count_eq_one_of_mem (nodup_meshKeys distinct) (List.mem_map_of_mem member)
  have foreign : ((foreignIds diags).map MeshKey.router).count (meshKey diag) = 0 := by
    rw [List.count_eq_zero, List.mem_map]
    rintro ⟨_, _, same⟩
    cases same
  have children : ((diags.flatMap (standIns diags)).map fun standIn => standIn.node.key).count
      (meshKey diag) = 0 := by
    rw [List.count_eq_zero, List.mem_map]
    rintro ⟨standIn, among, same⟩
    obtain ⟨owner, _, drawn⟩ := List.mem_flatMap.mp among
    rcases key_of_mem_standIns drawn with ⟨row, _, rfl⟩ | ⟨worst, rfl⟩
    · cases same
    · cases same
  rw [counted, keys_meshNodes, List.count_append, List.count_append, owned, foreign, children]

/-- A device that is a child row is drawn once if its row is found. -/
theorem drawings_length_iff {diags : List NodeDiag}
    (distinct : (diags.map NodeDiag.nodeId).Nodup) {router diag : NodeDiag}
    (isRouter : router.isRouter = true) (member : diag ∈ diags) {row : Neighbour}
    (listed : row ∈ router.children) :
    (drawings diags router diag row).length = 1 ↔
      row.rloc16 ∈ identifiedChildRlocs diags (meshKey router) := by
  have drawn : ((standIns diags router).filter fun standIn => row ∈ standIn.rows) = [] ↔
      row ∉ childRows diags router false := by
    rw [← mem_drawnRows_iff isRouter, List.filter_eq_nil_iff]
    simp
  rw [drawings, List.length_append, List.length_map, ownNodes_length distinct member,
    Nat.add_eq_left, List.length_eq_zero_iff, drawn, mem_childRows]
  simp [listed]

/-! ## How many children are counted -/

/-- Of the reported links of some devices, those that make a child of a router are
the parent links of the devices that lead to it. -/
theorem reportedChildren_length (diags items : List NodeDiag) (router : NodeDiag) :
    ((items.flatMap (reportedLinks diags)).filter fun link =>
        link.kind ≠ .router ∧ link.b = meshKey router).length =
      (items.filter fun diag => LeadsTo diags diag router).length := by
  induction items with
  | nil => rfl
  | cons diag rest ih =>
      rw [List.flatMap_cons, List.filter_append, List.length_append, ih, List.filter_cons]
      have own : ((reportedLinks diags diag).filter fun link =>
          link.kind ≠ .router ∧ link.b = meshKey router).length =
            if LeadsTo diags diag router then 1 else 0 := by
        by_cases isRouter : diag.isRouter = true
        · have none : diag.parent = none := by simp [NodeDiag.parent, isRouter]
          simp [reportedLinks, isRouter, rowLink, LeadsTo, none, List.filter_map]
        · cases found : diag.parent with
          | none => simp [reportedLinks, isRouter, LeadsTo, found]
          | some parent =>
              by_cases leads : targetKey diags parent.routerId = meshKey router
              · simp [reportedLinks, isRouter, LeadsTo, found, rowLink, leads]
              · simp [reportedLinks, isRouter, LeadsTo, found, rowLink, leads]
      rw [own]
      by_cases leads : LeadsTo diags diag router
      · simp [leads]
        omega
      · simp [leads]

theorem eq_of_meshKey {diags : List NodeDiag} (distinct : (diags.map NodeDiag.nodeId).Nodup)
    {first second : NodeDiag} (firstMember : first ∈ diags) (secondMember : second ∈ diags)
    (same : meshKey first = meshKey second) : first = second :=
  List.inj_on_of_nodup_map distinct firstMember secondMember (MeshKey.node.inj same)

/-- What only one element of a list gives. -/
theorem flatMap_ite {α β : Type} [DecidableEq α] {items : List α} (distinct : items.Nodup)
    {chosen : α} (member : chosen ∈ items) (given : List β) :
    (items.flatMap fun item => if item = chosen then given else []) = given := by
  induction items with
  | nil => cases member
  | cons item rest ih =>
      rw [List.nodup_cons] at distinct
      rw [List.flatMap_cons]
      rcases List.mem_cons.mp member with rfl | later
      · have others : (rest.flatMap fun item => if item = chosen then given else []) = [] := by
          rw [List.flatMap_eq_nil_iff]
          intro other among
          rw [if_neg]
          rintro rfl
          exact distinct.1 among
        rw [if_pos rfl, others, List.append_nil]
      · rw [if_neg, List.nil_append]
        · exact ih distinct.2 later
        · rintro rfl
          exact distinct.1 later

/-- The stand-ins linked to a router are its own. -/
theorem drawnChildren_length {diags : List NodeDiag}
    (distinct : (diags.map NodeDiag.nodeId).Nodup) {router : NodeDiag} (member : router ∈ diags) :
    (((diags.flatMap (standIns diags)).map StandIn.link).filter fun link =>
        link.kind ≠ .router ∧ link.b = meshKey router).length =
      (standIns diags router).length := by
  have own : ∀ diag ∈ diags, ((standIns diags diag).map StandIn.link).filter (fun link =>
      link.kind ≠ .router ∧ link.b = meshKey router) =
        if diag = router then (standIns diags router).map StandIn.link else [] := by
    intro diag among
    split
    · rename_i same
      subst same
      apply List.filter_eq_self.mpr
      intro link drawn
      obtain ⟨standIn, listed, rfl⟩ := List.mem_map.mp drawn
      obtain ⟨_, b, kind⟩ := ends_of_mem_standIns listed
      simp [b, kind]
    · rename_i differs
      rw [List.filter_eq_nil_iff]
      intro link drawn
      obtain ⟨standIn, listed, rfl⟩ := List.mem_map.mp drawn
      obtain ⟨_, b, _⟩ := ends_of_mem_standIns listed
      have other : meshKey diag ≠ meshKey router :=
        fun same => differs (eq_of_meshKey distinct among member same)
      simp [b, other]
  rw [List.map_flatMap, List.filter_flatMap, List.flatMap_congr own,
    flatMap_ite (List.Nodup.of_map _ distinct) member, List.length_map]

/-- The children of a router: the devices that lead to it and its stand-ins. -/
theorem childrenCount_eq {diags : List NodeDiag} (distinct : (diags.map NodeDiag.nodeId).Nodup)
    {router : NodeDiag} (member : router ∈ diags) :
    childrenCount diags (meshKey router) =
      (claimants diags router).length + (standIns diags router).length := by
  rw [childrenCount, meshLinks, List.filter_append, List.length_append,
    reportedChildren_length, drawnChildren_length distinct member]
  rfl

/-! ## When the mesh is well formed -/

/-- No address is drawn twice, and every child row of a diagnosed device carries an
address that a parent row for its router does. -/
structure ChildRowsFound (address : Int → Option Int) (diags : List NodeDiag) : Prop where
  separate : ((diags.flatMap (loneRows diags)).map Neighbour.rloc16).Nodup
  carried : ∀ router ∈ diags, router.isRouter = true → ∀ diag ∈ diags,
    LeadsTo diags diag router → ∀ row ∈ router.children,
      address diag.nodeId = some row.rloc16 →
      ∃ other ∈ diags, ∃ parent, other.parent = some parent ∧
        targetKey diags parent.routerId = meshKey router ∧ parent.rloc16 = row.rloc16

theorem ownedNode_of_key {diags : List NodeDiag} {router : NodeDiag}
    (distinct : (diags.map NodeDiag.nodeId).Nodup) (member : router ∈ diags) {node : MeshNode}
    (listed : node ∈ meshNodes diags) (same : node.key = meshKey router) :
    node = ownedNode diags router := by
  rw [meshNodes, List.mem_append, List.mem_append, List.mem_map, List.mem_map, List.mem_map]
    at listed
  rcases listed with (⟨diag, among, rfl⟩ | ⟨_, _, rfl⟩) | ⟨standIn, among, rfl⟩
  · rw [eq_of_meshKey distinct among member same]
  · cases same
  · obtain ⟨owner, _, drawn⟩ := List.mem_flatMap.mp among
    rcases key_of_mem_standIns drawn with ⟨row, _, rfl⟩ | ⟨worst, rfl⟩
    · cases same
    · cases same

/-- The children of a router that all are diagnosed are counted once. -/
theorem childrenCount_of_consistent {address : Int → Option Int} {diags : List NodeDiag}
    (distinct : (diags.map NodeDiag.nodeId).Nodup) (found : ChildRowsFound address diags)
    {router : NodeDiag} (member : router ∈ diags) (isRouter : router.isRouter = true)
    (consistent : MutuallyConsistent address diags router) :
    childrenCount diags (meshKey router) = router.children.length := by
  have identified : childRows diags router false = [] := by
    rw [List.eq_nil_iff_forall_not_mem]
    intro row listed
    obtain ⟨child, unfound⟩ := mem_childRows.mp listed
    have known : some row.rloc16 ∈
        (claimants diags router).map fun diag => address diag.nodeId :=
      consistent.mem_iff.mpr (List.mem_map_of_mem child)
    obtain ⟨diag, claims, located⟩ := List.mem_map.mp known
    obtain ⟨among, leads⟩ := List.mem_filter.mp claims
    have carried := found.carried router member isRouter diag among (of_decide_eq_true leads) row
      child located
    exact (of_decide_eq_false unfound) (mem_identifiedChildRlocs.mpr carried)
  have undrawn : standIns diags router = [] := by
    rw [standIns_eq, groupRows, identified, loneRows]
    by_cases none : (childRows diags router true).isEmpty = true
    · rw [childRows_false_of_empty none] at identified
      simp [none, identified, worstOf_nil]
    · simp [none, worstOf_nil]
  have lengths := consistent.length_eq
  rw [List.length_map, List.length_map] at lengths
  rw [childrenCount_eq distinct member, undrawn, lengths]
  rfl

/-- A mesh is well formed exactly when all child rows are found. -/
theorem meshWellFormed_iff (address : Int → Option Int) (wordChar : Char → Bool)
    (diags : List NodeDiag) (now : Rat) (distinct : (diags.map NodeDiag.nodeId).Nodup) :
    MeshWellFormed address diags (buildMesh wordChar diags now) ↔
      ChildRowsFound address diags := by
  constructor
  · intro wellFormed
    refine ⟨(nodup_keys_meshNodes_iff distinct).mp wellFormed.distinctKeys, ?_⟩
    intro router member isRouter diag among leads row child located
    have once := wellFormed.drawnOnce router member isRouter diag among leads row child located
    rw [drawings_length_iff distinct isRouter among child] at once
    exact mem_identifiedChildRlocs.mp once
  · intro found
    refine ⟨(nodup_keys_meshNodes_iff distinct).mpr found.separate,
      fun link member => meshLinks_ends member, ?_, ?_, ?_⟩
    · intro routerId once
      have nonempty : (diags.filter fun diag => diag.routerId = some routerId) ≠ [] := by
        intro none
        rw [none] at once
        cases once
      obtain ⟨diag, resolves⟩ := List.exists_mem_of_ne_nil _ nonempty
      obtain ⟨among, resolved⟩ := List.mem_filter.mp resolves
      change ((meshNodes diags).filter fun node => node.routerId = some routerId).length = 1
      rw [routerNodes_of_resolved among (of_decide_eq_true resolved), List.length_map]
      exact once
    · intro router member isRouter diag among leads row child located
      rw [drawings_length_iff distinct isRouter among child]
      exact mem_identifiedChildRlocs.mpr
        (found.carried router member isRouter diag among leads row child located)
    · intro router member isRouter consistent node listed same
      rw [ownedNode_of_key distinct member listed same]
      exact childrenCount_of_consistent distinct found member isRouter consistent

/-- On a network a parent row carries the address of a router, and a child row never
does. -/
structure ConformingAddresses (diags : List NodeDiag) : Prop where
  parents : ∀ diag ∈ diags, ∀ parent, diag.parent = some parent → parent.rloc16 % 1024 = 0
  children : ∀ diag ∈ diags, ∀ row ∈ diag.children, row.rloc16 % 1024 ≠ 0

/-- There every device that leads to a router is counted beside all of its rows. -/
theorem childrenCount_of_conforming {diags : List NodeDiag}
    (distinct : (diags.map NodeDiag.nodeId).Nodup) (conforming : ConformingAddresses diags)
    {router : NodeDiag} (member : router ∈ diags) (isRouter : router.isRouter = true) :
    childrenCount diags (meshKey router) =
      (claimants diags router).length + router.children.length := by
  have unfound : (childRows diags router true).isEmpty = true := by
    rw [List.isEmpty_iff, List.eq_nil_iff_forall_not_mem]
    intro row listed
    obtain ⟨child, found⟩ := mem_childRows.mp listed
    obtain ⟨diag, among, parent, isParent, _, same⟩ :=
      mem_identifiedChildRlocs.mp (of_decide_eq_true found)
    have address := conforming.parents diag among parent isParent
    rw [same] at address
    exact conforming.children router member row child address
  have drawn : (standIns diags router).length = router.children.length := by
    simp [standIns_eq, loneRows, groupRows, isRouter, unfound, worstOf_nil]
  rw [childrenCount_eq distinct member, drawn]

/-! ## A router and its child -/

/-- Rows of a neighbour table. -/
def childRow (rloc16 : Int) : Neighbour := ⟨rloc16, 3, some (-50), some (-50), 0, false, false, true⟩

def peerRow (rloc16 : Int) : Neighbour := ⟨rloc16, 3, some (-50), some (-50), 0, true, true, false⟩

/-- A router that resolves its router id. -/
def routerDiag (nodeId routerId : Int) (rows : List Neighbour) : NodeDiag :=
  ⟨nodeId, "router", true, ROLE_ROUTER, some 15, "home", none, none, none, rows,
    [⟨routerId, INVALID_ROUTER_ID, 0, true, false⟩], ∅, .live, none, [], true, none⟩

/-- A sleepy device with one neighbour. -/
def sleepyDiag (nodeId parentRloc16 : Int) : NodeDiag :=
  ⟨nodeId, "sensor", true, 2, some 15, "home", none, none, none, [peerRow parentRloc16], [], ∅,
    .live, none, [], true, none⟩

/-- The child is found where its parent row carries its own address. -/
theorem meshWellFormed_foundChild :
    MeshWellFormed (fun nodeId => if nodeId = 60 then some 0x1401 else none)
      [routerDiag 52 5 [childRow 0x1401], sleepyDiag 60 0x1401]
      (buildMesh Char.isAlphanum [routerDiag 52 5 [childRow 0x1401], sleepyDiag 60 0x1401] 0) := by
  refine (meshWellFormed_iff _ _ _ _ (by decide)).mpr ⟨by decide, ?_⟩
  intro router member isRouter diag among leads row child located
  have isFirst : router = routerDiag 52 5 [childRow 0x1401] := by
    rcases List.mem_cons.mp member with first | second
    · exact first
    · rw [List.mem_singleton.mp second] at isRouter
      cases isRouter
  subst isFirst
  have isChild : row = childRow 0x1401 := by
    rw [show (routerDiag 52 5 [childRow 0x1401]).children = [childRow 0x1401] from rfl] at child
    exact List.mem_singleton.mp child
  subst isChild
  exact ⟨sleepyDiag 60 0x1401, List.mem_cons_of_mem _ (List.mem_singleton_self _),
    peerRow 0x1401, by decide, by decide, rfl⟩

/-- With the addresses of a network it is drawn twice. -/
theorem ownedChild_drawnTwice :
    ¬∀ (address : Int → Option Int) (diags : List NodeDiag) (now : Rat),
      (diags.map NodeDiag.nodeId).Nodup →
        MeshWellFormed address diags (buildMesh Char.isAlphanum diags now) := by
  intro wellFormed
  have once := (wellFormed (fun nodeId => if nodeId = 56 then some 0x5C04 else none)
    [routerDiag 63 23 [childRow 0x5C04], sleepyDiag 56 0x5C00] 0 (by decide)).drawnOnce
      (routerDiag 63 23 [childRow 0x5C04]) (by simp) (by decide) (sleepyDiag 56 0x5C00) (by simp)
      ⟨peerRow 0x5C00, by decide, by decide⟩ (childRow 0x5C04) (by decide) rfl
  revert once
  decide

end IndigoMatter.Plugin
