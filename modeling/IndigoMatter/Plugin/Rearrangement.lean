import IndigoMatter.Plugin.ThreadMesh

/-!
# Diagnostics in another order

The same diagnostics listed in another order, each with its tables in another
order.  What a mesh reads of a node is here followed through such a change: most of
it stays what it is, a list of rows stays a permutation, and a scan for the first
best row finds another of the best.
-/

namespace IndigoMatter.Plugin

open IndigoMatter.Library

/-- The same diagnostics with the rows of its tables in another order. -/
inductive SameTables (diag : NodeDiag) : NodeDiag → Prop
  | reorder {neighbours : List Neighbour} {routes : List Route}
      (rows : diag.neighbours.Perm neighbours) (routeRows : diag.routes.Perm routes) :
      SameTables diag { diag with neighbours := neighbours, routes := routes }

/-- The same list of diagnostics in another order, tables included. -/
def Rearranged (first second : List NodeDiag) : Prop :=
  ∃ middle, first.Perm middle ∧ List.Forall₂ SameTables middle second

/-! ## Lists over the diagnostics -/

namespace Rearranged

variable {α : Type} {first second : List NodeDiag}

/-- What the diagnostics give is permuted when what each gives is. -/
theorem flatMap_perm (rearranged : Rearranged first second) {f g : NodeDiag → List α}
    (same : ∀ diag ∈ first, ∀ other, SameTables diag other → (f diag).Perm (g other)) :
    (first.flatMap f).Perm (second.flatMap g) := by
  obtain ⟨middle, perm, tables⟩ := rearranged
  refine (perm.flatMap_right f).trans ?_
  have among : ∀ diag ∈ middle, diag ∈ first := fun diag member => perm.mem_iff.mpr member
  clear perm
  induction tables with
  | nil => exact .refl _
  | cons tables _ ih =>
      rw [List.flatMap_cons, List.flatMap_cons]
      exact (same _ (among _ List.mem_cons_self) _ tables).append
        (ih fun diag member => among diag (List.mem_cons_of_mem _ member))

theorem map_perm (rearranged : Rearranged first second) {f g : NodeDiag → α}
    (same : ∀ diag ∈ first, ∀ other, SameTables diag other → f diag = g other) :
    (first.map f).Perm (second.map g) := by
  rw [List.map_eq_flatMap, List.map_eq_flatMap]
  refine rearranged.flatMap_perm fun diag member other tables => ?_
  rw [same diag member other tables]

theorem filterMap_perm (rearranged : Rearranged first second) {f g : NodeDiag → Option α}
    (same : ∀ diag ∈ first, ∀ other, SameTables diag other → f diag = g other) :
    (first.filterMap f).Perm (second.filterMap g) := by
  rw [List.filterMap_eq_flatMap_toList, List.filterMap_eq_flatMap_toList]
  refine rearranged.flatMap_perm fun diag member other tables => ?_
  rw [same diag member other tables]

/-- Each of the diagnostics is found again. -/
theorem exists_second (rearranged : Rearranged first second) {diag : NodeDiag}
    (member : diag ∈ first) : ∃ other ∈ second, SameTables diag other := by
  obtain ⟨middle, perm, tables⟩ := rearranged
  have among := perm.mem_iff.mp member
  clear perm
  induction tables with
  | nil => cases among
  | cons tables _ ih =>
      rcases List.mem_cons.mp among with rfl | later
      · exact ⟨_, List.mem_cons_self, tables⟩
      · obtain ⟨other, found, same⟩ := ih later
        exact ⟨other, List.mem_cons_of_mem _ found, same⟩

theorem exists_first (rearranged : Rearranged first second) {other : NodeDiag}
    (member : other ∈ second) : ∃ diag ∈ first, SameTables diag other := by
  obtain ⟨middle, perm, tables⟩ := rearranged
  have back : ∃ diag ∈ middle, SameTables diag other := by
    clear perm
    induction tables with
    | nil => cases member
    | cons tables _ ih =>
        rcases List.mem_cons.mp member with rfl | later
        · exact ⟨_, List.mem_cons_self, tables⟩
        · obtain ⟨diag, found, same⟩ := ih later
          exact ⟨diag, List.mem_cons_of_mem _ found, same⟩
  obtain ⟨diag, found, same⟩ := back
  exact ⟨diag, perm.mem_iff.mpr found, same⟩

end Rearranged

/-! ## What a mesh reads of a node -/

/-- Rows a mesh draws alike. -/
def LooksLike (first second : Neighbour) : Prop :=
  first.avgRssi = second.avgRssi ∧ first.lastRssi = second.lastRssi ∧
    first.lqi = second.lqi ∧ first.frameErrorPct = second.frameErrorPct

theorem rowLink_eq {first second : Neighbour} (alike : LooksLike first second) (a b : MeshKey)
    (kind : LinkKind) (seenFrom : MeshKey) :
    rowLink a b kind first seenFrom = rowLink a b kind second seenFrom := by
  obtain ⟨avg, last, lqi, frameErrors⟩ := alike
  rw [rowLink, rowLink, avg, last, lqi, frameErrors]

/-- A row a node's parent can be, depending on the order. -/
def IsBestParent (diag : NodeDiag) (row : Neighbour) : Prop :=
  row ∈ diag.parentCandidates ∧
    ∀ other ∈ diag.parentCandidates, NodeDiag.parentRank other ≤ NodeDiag.parentRank row

theorem NodeDiag.parent_isBest {diag : NodeDiag} {parent : Neighbour}
    (found : diag.parent = some parent) : IsBestParent diag parent := by
  rw [NodeDiag.parent] at found
  split at found
  · cases found
  · exact ⟨maxBy_mem found, fun other member => le_of_maxBy found member⟩

theorem NodeDiag.routerId_eq_some_iff {diag : NodeDiag} {routerId : Int} :
    diag.routerId = some routerId ↔
      diag.isRouter = true ∧ selfEntryRouterIds diag.routes = [routerId] := by
  rw [NodeDiag.routerId]
  cases diag.isRouter with
  | false => simp
  | true =>
      cases selfEntryRouterIds diag.routes with
      | nil => simp
      | cons first rest =>
          cases rest with
          | nil => simp
          | cons second rest => simp

theorem NodeDiag.parent_eq_none_iff {diag : NodeDiag} :
    diag.parent = none ↔ diag.isRouter = true ∨ diag.parentCandidates = [] := by
  rw [NodeDiag.parent]
  cases diag.isRouter with
  | false => simp [maxBy_eq_none_iff]
  | true => simp

namespace SameTables

variable {diag other : NodeDiag}

theorem meshKey (tables : SameTables diag other) : meshKey other = meshKey diag := by
  cases tables
  rfl

theorem isRouter (tables : SameTables diag other) : other.isRouter = diag.isRouter := by
  cases tables
  rfl

theorem neighbours (tables : SameTables diag other) :
    diag.neighbours.Perm other.neighbours := by
  cases tables with
  | reorder rows _ => exact rows

theorem routes (tables : SameTables diag other) : diag.routes.Perm other.routes := by
  cases tables with
  | reorder _ routeRows => exact routeRows

theorem routerId (tables : SameTables diag other) : other.routerId = diag.routerId := by
  have resolved : (selfEntryRouterIds diag.routes).Perm (selfEntryRouterIds other.routes) :=
    ((tables.routes.filter _).map _).dedup
  ext found
  rw [NodeDiag.routerId_eq_some_iff, NodeDiag.routerId_eq_some_iff, tables.isRouter]
  constructor
  · rintro ⟨router, only⟩
    rw [only, List.perm_singleton] at resolved
    exact ⟨router, resolved⟩
  · rintro ⟨router, only⟩
    rw [only, List.singleton_perm] at resolved
    exact ⟨router, resolved.symm⟩

theorem children (tables : SameTables diag other) : diag.children.Perm other.children :=
  tables.neighbours.filter _

theorem parentCandidates (tables : SameTables diag other) :
    diag.parentCandidates.Perm other.parentCandidates := by
  have candidates := tables.neighbours.filter fun row =>
    row.rxOnWhenIdle && row.fullThreadDevice
  have preferred := candidates.filter fun row => !row.isChild
  rw [NodeDiag.parentCandidates, NodeDiag.parentCandidates]
  simp only [preferred.isEmpty_eq]
  split
  · exact candidates
  · exact preferred

theorem isBestParent_iff (tables : SameTables diag other) {row : Neighbour} :
    IsBestParent other row ↔ IsBestParent diag row := by
  simp only [IsBestParent, tables.parentCandidates.mem_iff]

theorem parent_eq_none_iff (tables : SameTables diag other) :
    other.parent = none ↔ diag.parent = none := by
  have lengths := tables.parentCandidates.length_eq
  rw [NodeDiag.parent_eq_none_iff, NodeDiag.parent_eq_none_iff, tables.isRouter,
    ← List.length_eq_zero_iff, ← List.length_eq_zero_iff, lengths]

/-- Both scans find a parent, each one of the best. -/
theorem parents (tables : SameTables diag other) :
    (diag.parent = none ∧ other.parent = none) ∨
      ∃ first second, diag.parent = some first ∧ other.parent = some second ∧
        IsBestParent diag first ∧ IsBestParent diag second := by
  cases found : diag.parent with
  | none => exact .inl ⟨rfl, tables.parent_eq_none_iff.mpr found⟩
  | some first =>
      cases again : other.parent with
      | none =>
          rw [tables.parent_eq_none_iff.mp again] at found
          cases found
      | some second =>
          exact .inr ⟨first, second, rfl, rfl, NodeDiag.parent_isBest found,
            tables.isBestParent_iff.mp (NodeDiag.parent_isBest again)⟩

end SameTables

/-! ## Health flags -/

/-- A reading the scan for the best link of a router can find. -/
def IsBestReading (diag : NodeDiag) (reading : Int × RssiField) : Prop :=
  reading ∈ diag.neighbours.filterMap worstReading ∧
    ∀ other ∈ diag.neighbours.filterMap worstReading, other.1 ≤ reading.1

/-- Where a router is flagged for its best reading, the best readings are of one
field. -/
def LabelsAgree (diag : NodeDiag) : Prop :=
  diag.isRouter = true → diag.neighboursKnown = true → ∀ first second,
    IsBestReading diag first → IsBestReading diag second → first.1 < RSSI_WEAK →
      first.2 = second.2

/-- The rows of the leader have one path cost, or none that is flagged. -/
def CostsAgree (diag : NodeDiag) : Prop :=
  ∀ first ∈ diag.routes, ∀ second ∈ diag.routes,
    diag.leaderRouterId = some first.routerId → diag.leaderRouterId = some second.routerId →
      first.pathCost = second.pathCost ∨
        (first.pathCost < PATH_COST_FAR ∧ second.pathCost < PATH_COST_FAR)

/-- The best parents of a node look alike. -/
def ParentsAlike (diag : NodeDiag) : Prop :=
  diag.isRouter = false → ∀ first second, IsBestParent diag first → IsBestParent diag second →
    LooksLike first second

theorem worstReading_eq {first second : Neighbour} (alike : LooksLike first second) :
    worstReading first = worstReading second := by
  obtain ⟨avg, last, _, _⟩ := alike
  rw [worstReading, worstReading, avg, last]

/-- A link that is not weak is not flagged. -/
theorem weakLinkFlags_of_strong {diag : NodeDiag} {reading : Int × RssiField}
    (found : worstLinkReading diag = some reading) (strong : ¬reading.1 < RSSI_WEAK) :
    weakLinkFlags diag = [] := by
  have tolerable : ¬reading.1 < RSSI_BAD := by
    rw [RSSI_BAD]
    rw [RSSI_WEAK] at strong
    omega
  simp [weakLinkFlags, found, strong, tolerable]

namespace SameTables

variable {diag other : NodeDiag}

theorem worstLinkReading_of_alike (tables : SameTables diag other) (alike : ParentsAlike diag)
    (isLeaf : diag.isRouter = false) : worstLinkReading other = worstLinkReading diag := by
  rw [worstLinkReading, worstLinkReading, tables.isRouter, isLeaf]
  rcases tables.parents with ⟨none, none'⟩ | ⟨first, second, found, found', best, best'⟩
  · rw [none, none']
    rfl
  · rw [found, found']
    exact worstReading_eq (alike isLeaf _ _ best' best)

/-- Both scans for the best reading of a router find one of the best. -/
theorem readings (tables : SameTables diag other) (isRouter : diag.isRouter = true) :
    (worstLinkReading diag = none ∧ worstLinkReading other = none) ∨
      ∃ first second, worstLinkReading diag = some first ∧ worstLinkReading other = some second ∧
        IsBestReading diag first ∧ IsBestReading diag second := by
  have rows := tables.neighbours.filterMap worstReading
  rw [worstLinkReading, worstLinkReading, tables.isRouter, isRouter, if_pos rfl, if_pos rfl]
  cases found : maxBy Prod.fst (diag.neighbours.filterMap worstReading) with
  | none =>
      left
      rw [maxBy_eq_none_iff] at found
      refine ⟨rfl, ?_⟩
      rw [maxBy_eq_none_iff, ← List.length_eq_zero_iff, ← rows.length_eq, found]
      rfl
  | some first =>
      right
      cases again : maxBy Prod.fst (other.neighbours.filterMap worstReading) with
      | none =>
          rw [maxBy_eq_none_iff, ← List.length_eq_zero_iff, ← rows.length_eq,
            List.length_eq_zero_iff] at again
          rw [again] at found
          cases found
      | some second =>
          refine ⟨first, second, rfl, rfl, ⟨maxBy_mem found, ?_⟩, ?_, ?_⟩
          · exact fun reading member => le_of_maxBy found member
          · exact rows.mem_iff.mpr (maxBy_mem again)
          · exact fun reading member =>
              le_of_maxBy again (rows.mem_iff.mp member)

theorem weakLinkFlags_of_reading (tables : SameTables diag other)
    (same : worstLinkReading other = worstLinkReading diag) :
    weakLinkFlags other = weakLinkFlags diag := by
  rw [weakLinkFlags, weakLinkFlags, same]
  cases tables
  rfl

theorem weakLinkFlags_eq (tables : SameTables diag other) (labels : LabelsAgree diag)
    (alike : ParentsAlike diag) (known : diag.neighboursKnown = true) :
    weakLinkFlags other = weakLinkFlags diag := by
  cases isRouter : diag.isRouter with
  | false => exact tables.weakLinkFlags_of_reading (tables.worstLinkReading_of_alike alike isRouter)
  | true =>
      rcases tables.readings isRouter with ⟨none, none'⟩ | ⟨first, second, found, found', best, best'⟩
      · exact tables.weakLinkFlags_of_reading (none'.trans none.symm)
      · have value : first.1 = second.1 := le_antisymm (best'.2 _ best.1) (best.2 _ best'.1)
        by_cases weak : first.1 < RSSI_WEAK
        · have field := labels isRouter known first second best best' weak
          apply tables.weakLinkFlags_of_reading
          rw [found, found', Prod.ext value field]
        · rw [weakLinkFlags_of_strong found weak, weakLinkFlags_of_strong found' (value ▸ weak)]

theorem fewLinksFlags_eq (tables : SameTables diag other) :
    fewLinksFlags other = fewLinksFlags diag := by
  have name : other.name = diag.name := by
    cases tables
    rfl
  have parent : other.parent.isNone = diag.parent.isNone := by
    rw [Bool.eq_iff_iff, Option.isNone_iff_eq_none, Option.isNone_iff_eq_none]
    exact tables.parent_eq_none_iff
  have rows := tables.neighbours
  rw [fewLinksFlags, fewLinksFlags, tables.isRouter, tables.meshKey, name, parent]
  split
  · rcases listed : diag.neighbours with _ | ⟨first, _ | ⟨second, rest⟩⟩
    · rw [listed, List.nil_perm] at rows
      rw [rows]
    · rw [listed, List.singleton_perm] at rows
      rw [← rows]
    · rcases again : other.neighbours with _ | ⟨first', _ | ⟨second', rest'⟩⟩
      · rw [listed, again] at rows
        cases rows.length_eq
      · rw [listed, again] at rows
        cases rows.length_eq
      · rfl
  · rfl

theorem neighbourFlags_perm (tables : SameTables diag other) (labels : LabelsAgree diag)
    (alike : ParentsAlike diag) : (neighbourFlags diag).Perm (neighbourFlags other) := by
  have known : other.neighboursKnown = diag.neighboursKnown := by
    cases tables
    rfl
  have frameErrors : frameErrorFlag other = frameErrorFlag diag := by
    cases tables
    rfl
  rw [neighbourFlags, neighbourFlags, known, frameErrors]
  cases isKnown : diag.neighboursKnown with
  | false =>
      cases tables
      exact .refl _
  | true =>
      rw [tables.weakLinkFlags_eq labels alike isKnown, tables.fewLinksFlags_eq]
      exact ((tables.neighbours.filterMap _).append_left _).append_right _

/-- Both scans for the row of the leader find one, or neither does. -/
theorem pathCosts (tables : SameTables diag other) :
    (diag.pathCostToLeader = none ∧ other.pathCostToLeader = none) ∨
      ∃ first ∈ diag.routes, ∃ second ∈ diag.routes,
        diag.leaderRouterId = some first.routerId ∧ diag.leaderRouterId = some second.routerId ∧
          diag.pathCostToLeader = some first.pathCost ∧
            other.pathCostToLeader = some second.pathCost := by
  have leader : other.leaderRouterId = diag.leaderRouterId := by
    cases tables
    rfl
  rw [NodeDiag.pathCostToLeader, NodeDiag.pathCostToLeader, leader]
  cases led : diag.leaderRouterId with
  | none => exact .inl ⟨rfl, rfl⟩
  | some routerId =>
      cases found : diag.routes.find? fun route => route.routerId = routerId with
      | none =>
          left
          refine ⟨by simp [found], ?_⟩
          have again : (other.routes.find? fun route => route.routerId = routerId) = none := by
            rw [List.find?_eq_none] at found ⊢
            exact fun route member => found route (tables.routes.mem_iff.mpr member)
          simp [again]
      | some first =>
          right
          have leads : first.routerId = routerId := by simpa using List.find?_some found
          obtain ⟨second, again⟩ : ∃ second,
              (other.routes.find? fun route => route.routerId = routerId) = some second := by
            rw [← Option.isSome_iff_exists, List.find?_isSome]
            exact ⟨first, tables.routes.mem_iff.mp (List.mem_of_find?_eq_some found),
              decide_eq_true leads⟩
          have leads' : second.routerId = routerId := by simpa using List.find?_some again
          refine ⟨first, List.mem_of_find?_eq_some found, second,
            tables.routes.mem_iff.mpr (List.mem_of_find?_eq_some again), ?_, ?_, ?_, ?_⟩
          · rw [leads]
          · rw [leads']
          · simp [found]
          · simp [again]

end SameTables

/-- The flag of a node far from the leader. -/
def farFlags (diag : NodeDiag) : Option Int → List HealthFlag
  | some cost =>
      if PATH_COST_FAR ≤ cost then
        [⟨meshKey diag, .warn, .farFromLeader, s!"{diag.name}: {cost} hops from the leader"⟩]
      else []
  | none => []

/-- A node is flagged alike in every order of its tables. -/
theorem SameTables.healthFlags_perm {diag other : NodeDiag} (tables : SameTables diag other)
    (labels : LabelsAgree diag) (alike : ParentsAlike diag) (costs : CostsAgree diag) (now : Rat) :
    (healthFlags diag now).Perm (healthFlags other now) := by
  have far : farFlags diag other.pathCostToLeader = farFlags diag diag.pathCostToLeader := by
    rcases tables.pathCosts with ⟨none, none'⟩ |
      ⟨first, among, second, among', leads, leads', found, found'⟩
    · rw [none, none']
    · rw [found, found']
      rcases costs first among second among' leads leads' with same | ⟨near, near'⟩
      · rw [same]
      · rw [farFlags, farFlags, if_neg (not_le.mpr near), if_neg (not_le.mpr near')]
  have name : other.name = diag.name := by
    cases tables
    rfl
  rw [healthFlags, healthFlags, tables.isRouter, tables.routerId, tables.meshKey, name]
  refine ((((List.Perm.append (.append ?_ (.refl _)) ?_).append ?_).append ?_).append ?_)
  · cases tables
    exact .refl _
  · exact tables.neighbourFlags_perm labels alike
  · exact .of_eq far.symm
  · cases tables
    exact .refl _
  · cases tables
    exact .refl _

/-! ## The header -/

theorem firstNetworkName_eq (diags : List NodeDiag) :
    firstNetworkName diags =
      (((diags.map NodeDiag.networkName).filter (· ≠ "")).head?).getD "" := by
  have fold : ∀ name : String, diags.foldl
      (fun name diag => if name ≠ "" then name else diag.networkName) name =
        (((name :: diags.map NodeDiag.networkName).filter (· ≠ "")).head?).getD "" := by
    induction diags with
    | nil =>
        intro name
        by_cases empty : name = ""
        · simp [empty]
        · simp [empty]
    | cons diag rest ih =>
        intro name
        rw [List.foldl_cons, ih]
        by_cases empty : name = ""
        · simp [empty]
        · simp [empty]
  rw [firstNetworkName, fold]
  simp

theorem firstPresent_eq (field : NodeDiag → Option Int) (diags : List NodeDiag) :
    firstPresent field diags = (diags.filterMap field).head? := by
  have fold : ∀ value : Option Int, diags.foldl
      (fun value diag => if value.isSome then value else field diag) value =
        (value.toList ++ diags.filterMap field).head? := by
    induction diags with
    | nil =>
        intro value
        cases value <;> rfl
    | cons diag rest ih =>
        intro value
        rw [List.foldl_cons, ih]
        cases value with
        | none => cases given : field diag <;> simp [given]
        | some value => simp
  rw [firstPresent, fold]
  rfl

/-- The first of a list whose elements all agree is the first in every order. -/
theorem head?_of_perm {α : Type} {first second : List α} (perm : first.Perm second)
    (agree : ∀ a ∈ first, ∀ b ∈ first, a = b) : first.head? = second.head? := by
  cases first with
  | nil => rw [List.nil_perm.mp perm]
  | cons a rest =>
      cases second with
      | nil => cases perm.length_eq
      | cons b others =>
          rw [List.head?_cons, List.head?_cons, agree a List.mem_cons_self b
            (perm.mem_iff.mpr List.mem_cons_self)]

/-! ## Majorities -/

theorem nodup_eraseDups (values : List Int) : values.eraseDups.Nodup := by
  induction length : values.length using Nat.strong_induction_on generalizing values with
  | _ bound ih =>
      cases values with
      | nil => exact List.nodup_nil
      | cons value rest =>
          rw [List.eraseDups_cons, List.nodup_cons]
          constructor
          · rw [List.mem_eraseDups]
            simp
          · refine ih _ ?_ _ rfl
            rw [← length, List.length_cons]
            exact Nat.lt_succ_of_le (List.length_filter_le _ _)

theorem mem_mostCommon {values : List Int} {value : Int} {count : Nat} :
    (value, count) ∈ mostCommon values ↔ value ∈ values ∧ values.count value = count := by
  rw [mostCommon, List.mem_insertionSort, List.mem_map]
  constructor
  · rintro ⟨other, member, same⟩
    cases same
    exact ⟨List.mem_eraseDups.mp member, rfl⟩
  · rintro ⟨member, rfl⟩
    exact ⟨value, List.mem_eraseDups.mpr member, rfl⟩

theorem pairwise_mostCommon (values : List Int) :
    (mostCommon values).Pairwise fun first second => second.2 ≤ first.2 := by
  have total : Std.Total fun first second : Int × Nat => second.2 ≤ first.2 :=
    ⟨fun _ _ => le_total _ _⟩
  have transitive : IsTrans (Int × Nat) fun first second => second.2 ≤ first.2 :=
    ⟨fun _ _ _ first second => second.trans first⟩
  exact List.pairwise_insertionSort _ _

theorem nodup_mostCommon (values : List Int) : ((mostCommon values).map Prod.fst).Nodup := by
  have perm : ((mostCommon values).map Prod.fst).Perm values.eraseDups := by
    have sorted := (List.perm_insertionSort (fun first second : Int × Nat => second.2 ≤ first.2)
      (values.eraseDups.map fun value => (value, values.count value))).map Prod.fst
    rw [List.map_map] at sorted
    exact sorted.trans (.of_eq (List.map_id _))
  exact perm.nodup_iff.mpr (nodup_eraseDups values)

/-- A majority is a value more common than every other. -/
theorem majority_eq_some_iff {values : List Int} {value : Int} :
    majority values = some value ↔
      value ∈ values ∧
        ∀ other ∈ values, other ≠ value → values.count other < values.count value := by
  have counted : ∀ {other count}, (other, count) ∈ mostCommon values ↔
      other ∈ values ∧ values.count other = count := mem_mostCommon
  have sorted := pairwise_mostCommon values
  have distinct := nodup_mostCommon values
  rw [majority]
  generalize mostCommon values = ranked at counted sorted distinct ⊢
  rcases ranked with _ | ⟨⟨first, most⟩, _ | ⟨⟨second, next⟩, rest⟩⟩
  · constructor
    · intro found
      cases found
    · rintro ⟨member, _⟩
      exact absurd (counted.mpr ⟨member, rfl⟩) List.not_mem_nil
  · have only : ∀ other ∈ values, other = first := fun other member =>
      (Prod.mk.inj (List.mem_singleton.mp (counted.mpr ⟨member, rfl⟩))).1
    constructor
    · intro found
      cases found
      exact ⟨(counted.mp (List.mem_singleton_self _)).1,
        fun other member differs => absurd (only other member) differs⟩
    · rintro ⟨member, _⟩
      rw [only value member]
  · obtain ⟨firstMember, firstCount⟩ := counted.mp List.mem_cons_self
    obtain ⟨secondMember, secondCount⟩ := counted.mp (List.mem_cons_of_mem _ List.mem_cons_self)
    rw [List.pairwise_cons, List.pairwise_cons] at sorted
    have differ : second ≠ first := by
      rintro rfl
      simp at distinct
    have atMost : ∀ other ∈ values, values.count other ≤ most := by
      intro other member
      rcases List.mem_cons.mp (counted.mpr ⟨member, rfl⟩) with same | later
      · exact (Prod.mk.inj same).2.le
      · exact sorted.1 _ later
    have others : ∀ other ∈ values, other ≠ first → values.count other ≤ next := by
      intro other member differs
      rcases List.mem_cons.mp (counted.mpr ⟨member, rfl⟩) with same | later
      · exact absurd (congrArg Prod.fst same) differs
      · rcases List.mem_cons.mp later with same | later
        · exact (Prod.mk.inj same).2.le
        · exact sorted.2.1 _ later
    have isFirst : ∀ {other}, other ∈ values →
        (∀ third ∈ values, third ≠ other → values.count third < values.count other) →
          other = first := by
      intro other member most
      by_contra differs
      have less := most first firstMember (Ne.symm differs)
      rw [firstCount] at less
      exact absurd (atMost other member) (not_le.mpr less)
    dsimp only
    split
    · rename_i tied
      constructor
      · intro found
        cases found
      · rintro ⟨member, most⟩
        have less := most second secondMember
        rw [isFirst member most] at less
        have fewer := less differ
        omega
    · rename_i untied
      have fewer : next < most := lt_of_le_of_ne (sorted.1 _ List.mem_cons_self) (Ne.symm untied)
      constructor
      · intro found
        cases found
        refine ⟨firstMember, fun other member differs => ?_⟩
        rw [firstCount]
        exact lt_of_le_of_lt (others other member differs) fewer
      · rintro ⟨member, most⟩
        rw [isFirst member most]

theorem majority_of_perm {first second : List Int} (perm : first.Perm second) :
    majority first = majority second := by
  ext value
  rw [majority_eq_some_iff, majority_eq_some_iff]
  simp only [perm.mem_iff, perm.count_eq]

end IndigoMatter.Plugin
