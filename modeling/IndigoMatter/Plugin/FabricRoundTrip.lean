import Mathlib.Data.List.Dedup
import IndigoMatter.Plugin.FabricSafety

/-!
# A backup and the restore of it

A backup archives the files of both storage directories under names relative to their own
directory, those of the bridge node behind a reserved directory name.  Names of files can be
told apart again, so a restore that meets no refusal rebuilds both trees, on this computer or
on another.
-/

namespace IndigoMatter.Plugin.Fabric

open IndigoMatter.Library

/-! ## The backup -/

/-- The name of a file from the directory it is archived with, as `os.path.relpath` has it. -/
def relpath (below : Path) : List Char := ['/'].intercalate (below.map FileName.text)

/-- The files that `os.walk` finds below a directory. -/
def treeFiles (disk : Disk) (root : Path) : List (Path × Bytes) :=
  disk.listing.dedup.filterMap fun path =>
    if root.isPrefixOf path then
      (disk.file? path).map fun content => (path.drop root.length, content)
    else none

/-- `_add_tree`. -/
def addTree (disk : Disk) (root : Path) (start : List Char) : Archive :=
  (treeFiles disk root).map fun file => ⟨start ++ relpath file.1, file.2⟩

/-- `_is_nonempty_dir`. -/
def isNonemptyDir (disk : Disk) (path : Path) : Bool := disk.isDir path && disk.hasEntries path

inductive BackupFailure
  | storageMissing
  | storageEmpty
  | zeroMembers
deriving DecidableEq

/-- The files of the bridge node that a backup covers. -/
def bridgeFiles (disk : Disk) : Option StorageDir → List (Path × Bytes)
  | none => []
  | some bridge => if isNonemptyDir disk bridge.path then treeFiles disk bridge.path else []

/-- `create_backup`, up to the archive that it writes. -/
def createBackup (disk : Disk) (storage : StorageDir) (bridge : Option StorageDir) :
    Except BackupFailure Archive := do
  if !disk.isDir storage.path then throw .storageMissing
  if !isNonemptyDir disk storage.path then throw .storageEmpty
  let archive := addTree disk storage.path [] ++
    (bridgeFiles disk bridge).map fun file => ⟨BRIDGE_MEMBER_PREFIX ++ relpath file.1, file.2⟩
  if archive.isEmpty then throw .zeroMembers
  return archive

/-! ## Names of files -/

theorem splitOn_relpath {below : Path} (nonempty : below ≠ []) :
    (relpath below).splitOn '/' = below.map FileName.text := by
  apply List.splitOn_intercalate
  · intro text member
    rcases List.mem_map.mp member with ⟨name, _, rfl⟩
    exact name.proper.2.2.2
  · simpa using nonempty

theorem relpath_injective {below other : Path} (nonempty : below ≠ []) (otherNonempty : other ≠ [])
    (same : relpath below = relpath other) : below = other := by
  have texts := splitOn_relpath nonempty
  rw [same, splitOn_relpath otherNonempty] at texts
  exact (List.map_injective_iff.mpr (fun _ _ => FileName.ext) texts).symm

theorem relpath_cons (name : FileName) (rest : Path) :
    relpath (name :: rest) =
      name.text ++ (if rest = [] then [] else '/' :: relpath rest) := by
  cases rest with
  | nil => simp [relpath]
  | cons next others => simp [relpath]

theorem relpath_ne_nil {below : Path} (nonempty : below ≠ []) : relpath below ≠ [] := by
  cases below with
  | nil => exact absurd rfl nonempty
  | cons name rest =>
      rw [relpath_cons]
      simp [name.proper.1]

theorem head?_relpath_ne {below : Path} (nonempty : below ≠ []) :
    (relpath below).head? ≠ some '/' := by
  cases below with
  | nil => exact absurd rfl nonempty
  | cons name rest =>
      rcases name with ⟨text, proper⟩
      cases text with
      | nil => exact absurd rfl proper.1
      | cons first others =>
          rw [relpath_cons]
          simp only [List.cons_append, List.head?_cons, ne_eq, Option.some.injEq]
          rintro rfl
          exact proper.2.2.2 List.mem_cons_self

theorem getLast?_relpath_ne {below : Path} (nonempty : below ≠ []) :
    (relpath below).getLast? ≠ some '/' := by
  intro last
  rcases List.getLast?_eq_some_iff.mp last with ⟨front, ended⟩
  have pieces := splitOn_relpath nonempty
  rw [ended, List.splitOn_append_cons_self, List.splitOn_nil] at pieces
  have empty : [] ∈ below.map FileName.text := by
    rw [← pieces]
    simp
  rcases List.mem_map.mp empty with ⟨name, _, isNil⟩
  exact name.proper.1 isNil

/-- The reserved name begins a file name only through a directory of that name. -/
theorem bridgePrefix_relpath {below : Path} (nonempty : below ≠ []) :
    BRIDGE_MEMBER_PREFIX.isPrefixOf (relpath below) = true →
      ∃ rest, rest ≠ [] ∧ below = BRIDGE_DIRECTORY :: rest := by
  intro begins
  rcases List.isPrefixOf_iff_prefix.mp begins with ⟨tail, same⟩
  have shape : BRIDGE_DIRECTORY.text ++ '/' :: tail = relpath below := same
  have pieces := splitOn_relpath nonempty
  rw [← shape, List.splitOn_append_cons_self_of_not_mem BRIDGE_DIRECTORY.proper.2.2.2] at pieces
  cases below with
  | nil => exact absurd rfl nonempty
  | cons name rest =>
      rw [List.map_cons] at pieces
      rcases List.cons.inj pieces with ⟨first, others⟩
      refine ⟨rest, ?_, by rw [FileName.ext first]⟩
      rintro rfl
      exact List.splitOn_ne_nil _ _ others

theorem relativeName_bridge (below : Path) :
    relativeName .bridge (BRIDGE_MEMBER_PREFIX ++ relpath below) = relpath below := by
  simp [relativeName]

theorem landing_relpath {dest below : Path} (nonempty : below ≠ []) :
    landing dest (relpath below) = dest ++ below := by
  rw [landing, lookupStart, if_neg (head?_relpath_ne nonempty), splitOn_relpath nonempty,
    Path.resolve_names]

/-! ## Members of a backup -/

theorem mem_treeFiles {disk : Disk} {root below : Path} {content : Bytes} :
    (below, content) ∈ treeFiles disk root ↔ disk.file? (root ++ below) = some content := by
  simp only [treeFiles, List.mem_filterMap, List.mem_dedup]
  constructor
  · rintro ⟨path, _, found⟩
    split at found
    · rename_i begins
      rcases List.isPrefixOf_iff_prefix.mp begins with ⟨rest, rfl⟩
      rcases Option.map_eq_some_iff.mp found with ⟨stored, isFile, pair⟩
      rw [List.drop_left] at pair
      obtain ⟨rfl, rfl⟩ := Prod.mk.inj pair
      exact isFile
    · cases found
  · intro isFile
    refine ⟨root ++ below, ?_, ?_⟩
    · apply disk.listed
      rcases Disk.file?_eq_some_iff.mp isFile with ⟨number, found⟩
      simp [found]
    · rw [if_pos (List.isPrefixOf_iff_prefix.mpr (List.prefix_append root below)), isFile]
      simp

/-- Files with their paths, none of them on the way to another. -/
structure FileTree (files : List (Path × Bytes)) : Prop where
  nonempty : ∀ file ∈ files, file.1 ≠ []
  leaves : ∀ file ∈ files, ∀ other ∈ files, file.1 <+: other.1 → file = other

theorem fileTree_treeFiles {disk : Disk} {root : Path} (isDir : disk.isDir root = true) :
    FileTree (treeFiles disk root) where
  nonempty := by
    rintro ⟨below, content⟩ member rfl
    have isFile := mem_treeFiles.mp member
    rw [List.append_nil] at isFile
    rw [Disk.not_isDir_of_file? isFile] at isDir
    cases isDir
  leaves := by
    rintro ⟨below, content⟩ member ⟨other, otherContent⟩ otherMember ⟨rest, rfl⟩
    have isFile := mem_treeFiles.mp member
    have otherFile := mem_treeFiles.mp otherMember
    by_cases same : rest = []
    · subst same
      rw [List.append_nil, isFile] at otherFile
      rw [List.append_nil, Option.some.inj otherFile]
    · rcases Disk.file?_eq_some_iff.mp otherFile with ⟨number, found⟩
      have present : disk.node ((root ++ below) ++ rest) ≠ none := by simp [found]
      have directory := disk.isDir_of_below same present
      rw [Disk.not_isDir_of_file? isFile] at directory
      cases directory

/-- The members of a backup, each with its name in the archive. -/
def backupMembers (controller bridge : List (Path × Bytes)) : Archive :=
  (controller.map fun file => ⟨relpath file.1, file.2⟩) ++
    bridge.map fun file => ⟨BRIDGE_MEMBER_PREFIX ++ relpath file.1, file.2⟩

/-- No file of the controller lies in a directory with the reserved name. -/
def Unreserved (files : List (Path × Bytes)) : Prop :=
  ∀ file ∈ files, ∀ rest, rest ≠ [] → file.1 ≠ BRIDGE_DIRECTORY :: rest

section Members

variable {controller bridge : List (Path × Bytes)}

theorem bridgePrefix_eq_false (tree : FileTree controller) (unreserved : Unreserved controller)
    {file : Path × Bytes} (member : file ∈ controller) :
    BRIDGE_MEMBER_PREFIX.isPrefixOf (relpath file.1) = false := by
  rw [Bool.eq_false_iff]
  intro begins
  rcases bridgePrefix_relpath (tree.nonempty file member) begins with ⟨rest, nonempty, same⟩
  exact unreserved file member rest nonempty same

theorem bridgePrefix_append (name : List Char) :
    BRIDGE_MEMBER_PREFIX.isPrefixOf (BRIDGE_MEMBER_PREFIX ++ name) = true :=
  List.isPrefixOf_iff_prefix.mpr (List.prefix_append _ _)

theorem membersFor_controller (tree : FileTree controller) (unreserved : Unreserved controller) :
    membersFor (backupMembers controller bridge).namelist .controller =
      controller.map fun file => relpath file.1 := by
  have kept : (controller.map fun file => relpath file.1).filter
      (fun name => !BRIDGE_MEMBER_PREFIX.isPrefixOf name) =
        controller.map fun file => relpath file.1 := by
    rw [List.filter_eq_self]
    intro name member
    rcases List.mem_map.mp member with ⟨file, listed, rfl⟩
    rw [bridgePrefix_eq_false tree unreserved listed]
    rfl
  have dropped : (bridge.map fun file => BRIDGE_MEMBER_PREFIX ++ relpath file.1).filter
      (fun name => !BRIDGE_MEMBER_PREFIX.isPrefixOf name) = [] := by
    rw [List.filter_eq_nil_iff]
    intro name member
    rcases List.mem_map.mp member with ⟨file, _, rfl⟩
    simp [bridgePrefix_append]
  simp only [membersFor, Archive.namelist, backupMembers, List.map_append, List.map_map,
    Function.comp_def, List.filter_append]
  rw [kept, dropped, List.append_nil]

theorem membersFor_bridge (tree : FileTree controller) (unreserved : Unreserved controller)
    (bridgeTree : FileTree bridge) :
    membersFor (backupMembers controller bridge).namelist .bridge =
      bridge.map fun file => BRIDGE_MEMBER_PREFIX ++ relpath file.1 := by
  have dropped : (controller.map fun file => relpath file.1).filter
      (fun name => BRIDGE_MEMBER_PREFIX.isPrefixOf name && name ≠ BRIDGE_MEMBER_PREFIX) = [] := by
    rw [List.filter_eq_nil_iff]
    intro name member
    rcases List.mem_map.mp member with ⟨file, listed, rfl⟩
    simp [bridgePrefix_eq_false tree unreserved listed]
  have kept : (bridge.map fun file => BRIDGE_MEMBER_PREFIX ++ relpath file.1).filter
      (fun name => BRIDGE_MEMBER_PREFIX.isPrefixOf name && name ≠ BRIDGE_MEMBER_PREFIX) =
        bridge.map fun file => BRIDGE_MEMBER_PREFIX ++ relpath file.1 := by
    rw [List.filter_eq_self]
    intro name member
    rcases List.mem_map.mp member with ⟨file, listed, rfl⟩
    simp [bridgePrefix_append, relpath_ne_nil (bridgeTree.nonempty file listed)]
  simp only [membersFor, Archive.namelist, backupMembers, List.map_append, List.map_map,
    Function.comp_def, List.filter_append]
  rw [dropped, kept, List.nil_append]

theorem bridgeMembersIn_backupMembers (tree : FileTree controller)
    (unreserved : Unreserved controller) :
    (bridgeMembersIn (backupMembers controller bridge)).length = bridge.length := by
  have dropped : (controller.map fun file => relpath file.1).filter
      (fun name => BRIDGE_MEMBER_PREFIX.isPrefixOf name) = [] := by
    rw [List.filter_eq_nil_iff]
    intro name member
    rcases List.mem_map.mp member with ⟨file, listed, rfl⟩
    simp [bridgePrefix_eq_false tree unreserved listed]
  have kept : (bridge.map fun file => BRIDGE_MEMBER_PREFIX ++ relpath file.1).filter
      (fun name => BRIDGE_MEMBER_PREFIX.isPrefixOf name) =
        bridge.map fun file => BRIDGE_MEMBER_PREFIX ++ relpath file.1 := by
    rw [List.filter_eq_self]
    intro name member
    rcases List.mem_map.mp member with ⟨file, listed, rfl⟩
    exact bridgePrefix_append _
  simp only [bridgeMembersIn, Archive.namelist, backupMembers, List.map_append, List.map_map,
    Function.comp_def, List.filter_append]
  rw [dropped, kept, List.nil_append, List.length_map]

/-- A name is read back with its own content where no other member has it. -/
theorem open?_of_mem {archive : Archive} (member : Member) (present : member ∈ archive)
    (alone : ∀ other ∈ archive, other.name = member.name → other = member) :
    archive.open? member.name = some member.content := by
  unfold Archive.open?
  cases found : archive.reverse.find? fun other => other.name = member.name with
  | none =>
      have missing := List.find?_eq_none.mp found member (List.mem_reverse.mpr present)
      simp at missing
  | some other =>
      have same := List.find?_some found
      have listed := List.mem_reverse.mp (List.mem_of_find?_eq_some found)
      rw [alone other listed (by simpa using same)]
      rfl

theorem open?_controller (tree : FileTree controller) (unreserved : Unreserved controller)
    {file : Path × Bytes} (listed : file ∈ controller) :
    (backupMembers controller bridge).open? (relpath file.1) = some file.2 := by
  apply open?_of_mem ⟨relpath file.1, file.2⟩
  · exact List.mem_append_left _ (List.mem_map_of_mem listed)
  · intro other member same
    rcases List.mem_append.mp member with own | ofBridge
    · rcases List.mem_map.mp own with ⟨otherFile, otherListed, rfl⟩
      have paths := relpath_injective (tree.nonempty _ otherListed) (tree.nonempty _ listed) same
      rw [tree.leaves _ otherListed _ listed (paths ▸ List.prefix_rfl)]
    · rcases List.mem_map.mp ofBridge with ⟨otherFile, _, rfl⟩
      have begins := bridgePrefix_append (relpath otherFile.1)
      simp only at same
      rw [same, bridgePrefix_eq_false tree unreserved listed] at begins
      cases begins

theorem open?_bridge (tree : FileTree controller) (unreserved : Unreserved controller)
    (bridgeTree : FileTree bridge) {file : Path × Bytes} (listed : file ∈ bridge) :
    (backupMembers controller bridge).open? (BRIDGE_MEMBER_PREFIX ++ relpath file.1) =
      some file.2 := by
  apply open?_of_mem ⟨BRIDGE_MEMBER_PREFIX ++ relpath file.1, file.2⟩
  · exact List.mem_append_right _ (List.mem_map_of_mem listed)
  · intro other member same
    rcases List.mem_append.mp member with ofController | own
    · rcases List.mem_map.mp ofController with ⟨otherFile, otherListed, rfl⟩
      have begins := bridgePrefix_append (relpath file.1)
      simp only at same
      rw [← same, bridgePrefix_eq_false tree unreserved otherListed] at begins
      cases begins
    · rcases List.mem_map.mp own with ⟨otherFile, otherListed, rfl⟩
      have names := List.append_cancel_left same
      have paths := relpath_injective (bridgeTree.nonempty _ otherListed)
        (bridgeTree.nonempty _ listed) names
      rw [bridgeTree.leaves _ otherListed _ listed (paths ▸ List.prefix_rfl)]

end Members

/-! ## A computer that refuses nothing -/

/-- Each call succeeds if it can. -/
def granted : Nat → Answer := fun _ => { control := .yes, directory := true, writing := .completes }

section Granted

variable {station : Workstation}

theorem wp_onDisk_granted {operation : Disk → Except OsError Disk} {disk : Disk}
    {post : Unit → Workstation → Prop} {onThrow : Failure → Workstation → Prop}
    (works : operation station.disk = .ok disk)
    (holds : post () { station with disk, clock := station.clock + 1 }) :
    wp (onDisk granted operation) post onThrow station := by
  simp only [onDisk, nextAnswer, granted, wp_bind, wp_get, wp_set, wp_pure, if_true, works]
  exact holds

theorem makeDir_granted {path : Path} (parent : station.disk.isDir path.dropLast = true)
    (notFile : station.disk.file? path = none) :
    wp (makeDir granted path) (fun _ after => after.disk.isDir path = true) (fun _ _ => False)
      station := by
  simp only [makeDir, wp_bind, wp_get]
  split
  · rename_i isDir
    exact isDir
  · rcases Disk.ensureDir_succeeds parent notFile with ⟨disk, made⟩
    exact wp_onDisk_granted made (Disk.ensureDir_ok made).1

/-- Directories can be made down a path with no file on it. -/
theorem makeDirs_granted {start : Path} (names : Path) (isDir : station.disk.isDir start = true)
    (free : ∀ first, first <+: names → station.disk.file? (start ++ first) = none) :
    wp (makeDirs granted start (names.map FileName.text))
      (fun _ after => after.disk.isDir (start ++ names) = true) (fun _ _ => False) station := by
  induction names generalizing start station with
  | nil => simpa [makeDirs, Path.walk] using isDir
  | cons name rest ih =>
      simp only [makeDirs, List.map_cons, Path.walk, Path.enter_text, List.forM_cons, wp_bind]
      have parent : station.disk.isDir (start ++ [name]).dropLast = true := by simpa using isDir
      have notFile : station.disk.file? (start ++ [name]) = none := free [name] (by simp)
      apply wp_mono (wp_and (makeDir_granted parent notFile) (touches_makeDir (start ++ [name])))
      · rintro _ middle ⟨made, touched, _⟩
        have stillFree : ∀ first, first <+: rest →
            middle.disk.file? ((start ++ [name]) ++ first) = none := by
          intro first isPrefix
          rw [touched.file _ (fun never => never), List.append_assoc]
          exact free _ (by simpa using isPrefix)
        simpa [makeDirs] using ih made stillFree
      · exact fun _ _ never => never.1.elim

theorem writeMember_granted {path : Path} (content : Bytes)
    (parent : station.disk.isDir path.dropLast = true)
    (notDirectory : station.disk.isDir path = false) :
    wp (writeMember granted path content)
      (fun _ after => after.disk.file? path = some content ∧
        ∀ other, other ≠ path → after.disk.node other = station.disk.node other)
      (fun _ _ => False) station := by
  have works : ∃ disk, station.disk.writeFile path content = .ok disk :=
    Disk.writeFile_succeeds parent notDirectory
  rcases works with ⟨disk, written⟩
  simp only [writeMember, nextAnswer, granted, wp_bind, wp_get, wp_set, wp_pure, written]
  exact Disk.writeFile_ok written

/-! ### Extracting a tree -/

/-- Below a directory are the files extracted so far, and only directories that lead to
them. -/
structure Extracted (dest : Path) (files : List (Path × Bytes)) (disk : Disk) : Prop where
  isDir : disk.isDir dest = true
  file : ∀ below content, disk.file? (dest ++ below) = some content ↔ (below, content) ∈ files
  directory : ∀ below, below ≠ [] → disk.isDir (dest ++ below) = true →
    ∃ file ∈ files, below <+: file.1 ∧ below ≠ file.1

theorem not_prefix_dropLast {below : Path} (nonempty : below ≠ []) : ¬ below <+: below.dropLast := by
  intro isPrefix
  have shorter := isPrefix.length_le
  have positive := List.length_pos_iff.mpr nonempty
  rw [List.length_dropLast] at shorter
  omega

/-- Make the directories of a file and write it. -/
def extractFile (dest : Path) (file : Path × Bytes) : Restoring Unit := do
  makeDirs granted dest (file.1.dropLast.map FileName.text)
  writeMember granted (dest ++ file.1) file.2

/-- One file more. -/
theorem extractFile_granted {dest : Path} {files : List (Path × Bytes)} {below : Path}
    {content : Bytes} (tree : FileTree (files ++ [(below, content)]))
    (earlier : Extracted dest files station.disk) :
    wp (extractFile dest (below, content))
      (fun _ after => Extracted dest (files ++ [(below, content)]) after.disk) (fun _ _ => False)
      station := by
  have last : (below, content) ∈ files ++ [(below, content)] := by simp
  have nonempty : below ≠ [] := tree.nonempty _ last
  have apart : ∀ other otherContent, (other, otherContent) ∈ files →
      below <+: other ∨ other <+: below → (other, otherContent) = (below, content) := by
    intro other otherContent member related
    have listed := List.mem_append_left [(below, content)] member
    rcases related with covers | covered
    · exact (tree.leaves _ last _ listed covers).symm
    · exact tree.leaves _ listed _ last covered
  have free : ∀ first, first <+: below.dropLast → station.disk.file? (dest ++ first) = none := by
    intro first isPrefix
    cases found : station.disk.file? (dest ++ first) with
    | none => rfl
    | some stored =>
        have onTheWay : first <+: below := isPrefix.trans (List.dropLast_prefix below)
        have same := apart first stored ((earlier.file _ _).mp found) (.inr onTheWay)
        rw [(Prod.mk.inj same).1] at isPrefix
        exact absurd isPrefix (not_prefix_dropLast nonempty)
  have steps : ∀ step ∈ dest.walk (below.dropLast.map FileName.text),
      ∃ first, first ≠ [] ∧ first <+: below.dropLast ∧ step = dest ++ first :=
    fun step member => Path.mem_walk_names.mp member
  rw [extractFile, wp_bind]
  apply wp_mono (wp_and (makeDirs_granted below.dropLast earlier.isDir free)
    (touches_makeDirs dest _ steps))
  · rintro _ middle ⟨made, touched⟩
    have sameFiles : ∀ path, middle.disk.file? path = station.disk.file? path :=
      fun path => touched.file path fun never => never
    have sameNode : ∀ other, ¬ (other ≠ [] ∧ other <+: below.dropLast) →
        middle.disk.node (dest ++ other) = station.disk.node (dest ++ other) := by
      intro other notStep
      apply touched.node _ _ fun never => never
      rintro ⟨first, firstNonempty, isPrefix, same⟩
      obtain rfl := List.append_cancel_left same
      exact notStep ⟨firstNonempty, isPrefix⟩
    have parent : middle.disk.isDir (dest ++ below).dropLast = true := by
      rw [List.dropLast_append_of_ne_nil nonempty]
      exact made
    have notDirectory : middle.disk.isDir (dest ++ below) = false := by
      rw [Bool.eq_false_iff]
      intro isDirectory
      rw [Disk.isDir, sameNode below fun step => not_prefix_dropLast nonempty step.2] at isDirectory
      rcases earlier.directory below nonempty isDirectory with ⟨file, member, covers, differs⟩
      have same := apart file.1 file.2 member (.inl covers)
      exact differs (Prod.mk.inj same).1.symm
    apply wp_mono (writeMember_granted content parent notDirectory)
    · rintro _ after ⟨written, elsewhere⟩
      have nodeOf : ∀ other, other ≠ below →
          after.disk.node (dest ++ other) = middle.disk.node (dest ++ other) :=
        fun other differs => elsewhere _ fun same => differs (List.append_cancel_left same)
      refine ⟨?_, ?_, ?_⟩
      · have top := nodeOf [] nonempty.symm
        have before := sameNode [] fun step => step.1 rfl
        simp only [List.append_nil] at top before
        rw [Disk.isDir, top, before]
        exact earlier.isDir
      · intro other stored
        rw [List.mem_append, List.mem_singleton]
        by_cases same : other = below
        · subst same
          rw [written]
          constructor
          · intro found
            exact .inr (by rw [Option.some.inj found])
          · rintro (member | isLast)
            · rw [(Prod.mk.inj (apart _ _ member (.inl List.prefix_rfl))).2]
            · rw [(Prod.mk.inj isLast).2]
        · have sameFile : after.disk.file? (dest ++ other) = station.disk.file? (dest ++ other) := by
            rw [← sameFiles, Disk.file?, Disk.file?, nodeOf other same]
          rw [sameFile, earlier.file]
          constructor
          · exact fun member => .inl member
          · rintro (member | isLast)
            · exact member
            · exact absurd (Prod.mk.inj isLast).1 same
      · intro other otherNonempty isDirectory
        by_cases same : other = below
        · subst same
          rw [Disk.not_isDir_of_file? written] at isDirectory
          cases isDirectory
        · rw [Disk.isDir, nodeOf other same] at isDirectory
          by_cases onTheWay : other <+: below.dropLast
          · refine ⟨(below, content), last, onTheWay.trans (List.dropLast_prefix below), same⟩
          · rw [sameNode other fun step => onTheWay step.2] at isDirectory
            rcases earlier.directory other otherNonempty isDirectory with ⟨file, member, covers⟩
            exact ⟨file, List.mem_append_left _ member, covers⟩
    · exact fun _ _ never => never
  · exact fun _ _ never => never.1.elim

theorem extractMember_relpath {dest below : Path} (nonempty : below ≠ []) (content : Bytes) :
    extractMember granted dest (relpath below) content = extractFile dest (below, content) := by
  have parts : ((relpath below).splitOn '/').filterMap FileName.ofText? = below := by
    rw [splitOn_relpath nonempty, List.filterMap_map]
    simp
  simp only [extractMember, extractFile, parts, if_neg (getLast?_relpath_ne nonempty)]

theorem copyMember_relpath {dest below : Path} (nonempty : below ≠ []) (content : Bytes) :
    copyMember granted dest (BRIDGE_MEMBER_PREFIX ++ relpath below) content =
      extractFile dest (below, content) := by
  simp only [copyMember, extractFile, relativeName_bridge, if_neg (getLast?_relpath_ne nonempty), lookupStart,
    if_neg (head?_relpath_ne nonempty), splitOn_relpath nonempty, landing_relpath nonempty,
    List.map_dropLast]

/-- All files of a tree, one after the other. -/
theorem extractAll_granted {dest : Path} {files : List (Path × Bytes)} (nameOf : Path → List Char)
    {extract : List Char → Restoring Unit} (tree : FileTree files)
    (extracts : ∀ file ∈ files, extract (nameOf file.1) = extractFile dest file)
    (isEmpty : Extracted dest [] station.disk) :
    wp (forM (files.map fun file => nameOf file.1) extract)
      (fun _ after => Extracted dest files after.disk) (fun _ _ => False) station := by
  apply wp_mono (wp_forM
    (fun names after => ∃ done rest, files = done ++ rest ∧
      names = rest.map (fun file => nameOf file.1) ∧ Extracted dest done after.disk)
    (fun _ _ => False) ?_ _ station ⟨[], files, rfl, rfl, isEmpty⟩)
  · rintro _ after ⟨done, rest, whole, finished, extracted⟩
    have ended : rest = [] := by simpa using finished.symm
    rw [whole, ended, List.append_nil]
    exact extracted
  · exact fun _ _ never => never
  · rintro name names middle ⟨done, rest, whole, queue, extracted⟩
    cases rest with
    | nil => cases queue
    | cons file others =>
        obtain ⟨rfl, rfl⟩ := List.cons.inj queue
        have longer : files = (done ++ [file]) ++ others := by simpa using whole
        rw [extracts file (by simp [whole])]
        have soFar : FileTree (done ++ [(file.1, file.2)]) := by
          constructor
          · exact fun other member => tree.nonempty other (by
              rw [longer]
              exact List.mem_append_left _ member)
          · exact fun other member another also => tree.leaves other (by
              rw [longer]
              exact List.mem_append_left _ member) another (by
              rw [longer]
              exact List.mem_append_left _ also)
        apply wp_mono (extractFile_granted soFar extracted)
        · intro _ after step
          exact ⟨done ++ [file], others, longer, rfl, step⟩
        · exact fun _ _ never => never

/-! ### One side of the archive -/

/-- The files of one side. -/
def sideFiles (controller bridge : List (Path × Bytes)) : ArchiveSide → List (Path × Bytes)
  | .controller => controller
  | .bridge => bridge

variable {controller bridge : List (Path × Bytes)}

theorem noZipSlip_backupMembers (tree : FileTree controller) (unreserved : Unreserved controller)
    (bridgeTree : FileTree bridge) (dest : Path) (side : ArchiveSide) :
    noZipSlip (backupMembers controller bridge).namelist dest side = true := by
  unfold noZipSlip
  rw [List.all_eq_true]
  intro name listed
  cases side with
  | controller =>
      rw [membersFor_controller tree unreserved] at listed
      rcases List.mem_map.mp listed with ⟨file, member, rfl⟩
      rw [relativeName, landing_relpath (tree.nonempty file member)]
      exact List.isPrefixOf_iff_prefix.mpr (List.prefix_append dest file.1)
  | bridge =>
      rw [membersFor_bridge tree unreserved bridgeTree] at listed
      rcases List.mem_map.mp listed with ⟨file, member, rfl⟩
      rw [relativeName_bridge, landing_relpath (bridgeTree.nonempty file member)]
      exact List.isPrefixOf_iff_prefix.mpr (List.prefix_append dest file.1)

theorem staysInside_backupMembers (tree : FileTree controller) (unreserved : Unreserved controller)
    (bridgeTree : FileTree bridge) (dest : Path) :
    StaysInside (backupMembers controller bridge) dest := by
  intro name listed step passed
  rw [membersFor_bridge tree unreserved bridgeTree] at listed
  rcases List.mem_map.mp listed with ⟨file, member, rfl⟩
  have nonempty := bridgeTree.nonempty file member
  rw [passes, relativeName_bridge, lookupStart, if_neg (head?_relpath_ne nonempty),
    splitOn_relpath nonempty] at passed
  exact isBelow_of_mem_walk_names passed

theorem safeExtract_granted (tree : FileTree controller) (unreserved : Unreserved controller)
    (bridgeTree : FileTree bridge) {dest : Path} (side : ArchiveSide)
    (isEmpty : Extracted dest [] station.disk) :
    wp (safeExtract granted (backupMembers controller bridge) dest side)
      (fun _ after => Extracted dest (sideFiles controller bridge side) after.disk)
      (fun _ _ => False) station := by
  simp only [safeExtract, noZipSlip_backupMembers tree unreserved bridgeTree dest side,
    Bool.not_true, Bool.false_eq_true, if_false]
  cases side with
  | controller =>
      rw [membersFor_controller tree unreserved]
      apply extractAll_granted relpath tree _ isEmpty
      intro file member
      simp only [open?_controller tree unreserved member, Option.getD_some]
      exact extractMember_relpath (tree.nonempty file member) file.2
  | bridge =>
      rw [membersFor_bridge tree unreserved bridgeTree]
      apply extractAll_granted (fun below => BRIDGE_MEMBER_PREFIX ++ relpath below) bridgeTree _
        isEmpty
      intro file member
      simp only [open?_bridge tree unreserved bridgeTree member, Option.getD_some]
      exact copyMember_relpath (bridgeTree.nonempty file member) file.2

/-- Nothing is at a path or below it, and no file on the way to it. -/
structure Vacant (disk : Disk) (path : Path) : Prop where
  node : ∀ below, disk.node (path ++ below) = none
  onTheWay : ∀ first, first <+: path → disk.file? first = none

theorem extractSide_granted (tree : FileTree controller) (unreserved : Unreserved controller)
    (bridgeTree : FileTree bridge) {storage : StorageDir} (side : ArchiveSide)
    (some_ : sideFiles controller bridge side ≠ []) (vacant : Vacant station.disk storage.path) :
    wp (extractSide granted (backupMembers controller bridge) storage side)
      (fun _ after => Extracted storage.path (sideFiles controller bridge side) after.disk)
      (fun _ _ => False) station := by
  have steps : ∀ step ∈ Path.walk [] (storage.path.map FileName.text), step <+: storage.path := by
    intro step member
    rcases Path.mem_walk_names.mp member with ⟨first, _, isPrefix, rfl⟩
    simpa using isPrefix
  simp only [extractSide, wp_bind]
  apply wp_mono (wp_and (makeDirs_granted storage.path station.disk.root
    (by simpa using vacant.onTheWay)) (touches_makeDirs [] _ steps))
  · rintro _ middle ⟨made, touched⟩
    have isEmpty : Extracted storage.path [] middle.disk := by
      refine ⟨by simpa using made, ?_, ?_⟩
      · intro below content
        rw [touched.file _ fun never => never]
        simp [Disk.file?, vacant.node below]
      · intro below nonempty isDirectory
        have notStep : ¬ storage.path ++ below <+: storage.path := by
          intro isPrefix
          have shorter := isPrefix.length_le
          have positive := List.length_pos_iff.mpr nonempty
          rw [List.length_append] at shorter
          omega
        rw [Disk.isDir, touched.node _ notStep fun never => never, vacant.node below]
          at isDirectory
        cases isDirectory
    rw [wp_bind]
    apply wp_mono (safeExtract_granted tree unreserved bridgeTree side isEmpty)
    · intro _ after extracted
      rw [wp_bind, wp_get]
      have entries : after.disk.hasEntries storage.path = true := by
        rcases List.exists_mem_of_ne_nil _ some_ with ⟨⟨below, content⟩, member⟩
        have isFile := (extracted.file below content).mpr member
        by_contra missing
        have noEntries := Bool.eq_false_iff.mpr missing
        have nonempty : below ≠ [] := by
          rintro rfl
          rw [List.append_nil] at isFile
          have isDir := extracted.isDir
          rw [Disk.not_isDir_of_file? isFile] at isDir
          cases isDir
        have absent := Disk.node_below_eq_none noEntries nonempty
        simp [Disk.file?, absent] at isFile
      simp [extracted.isDir, entries, extracted]
    · exact fun _ _ never => never
  · exact fun _ _ never => never.1.elim

/-! ### The steps of a restore -/

/-- A storage directory can be moved aside and made again. -/
structure Clear (disk : Disk) (storage : StorageDir) (stamp : Stamp) : Prop where
  free : disk.node (storage.preRestore stamp) = none
  onTheWay : ∀ first, first <+: storage.path → disk.file? first = none

theorem Clear.vacant {storage : StorageDir} {stamp : Stamp} {before after : Disk}
    (clear : Clear before storage stamp) (gone : ∀ below, after.node (storage.path ++ below) = none)
    (elsewhere : ∀ path, ¬ storage.path <+: path → ¬ storage.preRestore stamp <+: path →
      after.node path = before.node path) : Vacant after storage.path where
  node := gone
  onTheWay := by
    intro first isPrefix
    by_cases whole : storage.path <+: first
    · have nothing := gone []
      rw [List.append_nil] at nothing
      have same : first = storage.path := (whole.eq_of_length_le isPrefix.length_le).symm
      rw [same, Disk.file?, nothing]
    · have notAside : ¬ storage.preRestore stamp <+: first :=
        fun covers => (storage.apart_preRestore stamp).2 (covers.trans isPrefix)
      rw [Disk.file?, elsewhere first whole notAside]
      exact clear.onTheWay first isPrefix

theorem moveAside_granted {storage : StorageDir} {stamp : Stamp}
    (clear : Clear station.disk storage stamp) :
    wp (moveAside granted storage stamp)
      (fun _ after => (∀ below, after.disk.node (storage.path ++ below) = none) ∧
        ∀ path, ¬ storage.path <+: path → ¬ storage.preRestore stamp <+: path →
          after.disk.node path = station.disk.node path)
      (fun _ _ => False) station := by
  have apart := storage.apart_preRestore stamp
  simp only [moveAside, wp_bind, wp_get]
  cases isDir : station.disk.isDir storage.path with
  | false =>
      refine ⟨?_, fun _ _ _ => rfl⟩
      intro below
      by_contra present
      cases below with
      | nil =>
          rw [List.append_nil] at present
          have notFile := clear.onTheWay storage.path List.prefix_rfl
          rcases Option.ne_none_iff_exists'.mp present with ⟨⟨number, kind⟩, found⟩
          cases kind with
          | directory => simp [Disk.isDir, Inode.isDirectory, found] at isDir
          | file content => simp [Disk.file?, found] at notFile
      | cons name rest =>
          rw [station.disk.isDir_of_below (by simp) present] at isDir
          cases isDir
  | true =>
      have parent : station.disk.isDir (storage.preRestore stamp).dropLast = true := by
        have within := station.disk.rooted storage.parent storage.name
          (Disk.exists_of_isDir isDir)
        simpa [StorageDir.preRestore, StorageDir.sibling, Disk.isDir] using within
      rcases Disk.rename_succeeds isDir clear.free apart.1 parent with ⟨disk, renamed⟩
      have different : storage.path ≠ storage.preRestore stamp := by
        intro same
        exact apart.1 (same ▸ List.prefix_rfl)
      rcases Disk.rename_ok different renamed with ⟨_, _, gone, elsewhere⟩
      simp only [if_true, osRename, wp_bind]
      exact wp_onDisk_granted renamed ⟨gone apart.2, elsewhere⟩

theorem stopForRestore_granted (job : RestoreJob) (plan : Option BridgePlan) :
    wp (stopForRestore granted job plan)
      (fun stopped after => after.disk = station.disk ∧
        stopped = plan.map fun plan => { plan with wasAlive := true })
      (fun _ _ => False) station := by
  cases plan with
  | none => simp [stopForRestore, askControl, nextAnswer, note, granted]
  | some plan =>
      cases probes : job.probes <;>
        simp [stopForRestore, stopBridge, controlIsAlive, askControl, nextAnswer, note, granted,
          probes]

theorem startController_granted :
    wp (startController granted) (fun started after => started = true ∧
      after.disk = station.disk) (fun _ _ => False) station := by
  simp [startController, askControl, nextAnswer, note, granted]

theorem finishBridgeRestore_granted (plan : Option BridgePlan) :
    wp (finishBridgeRestore granted plan)
      (fun finished after => finished.isSome = plan.isSome ∧ after.disk = station.disk)
      (fun _ _ => False) station := by
  cases plan with
  | none => exact ⟨rfl, rfl⟩
  | some plan =>
      cases alive : plan.wasAlive <;>
        simp [finishBridgeRestore, restartBridge, askControl, nextAnswer, note, granted, alive]

theorem moveAsideForRestore_granted {job : RestoreJob} {plan : Option BridgePlan}
    (clear : Clear station.disk job.storage job.stamp)
    (bridgeClear : ∀ bridge, plan = some bridge → Clear station.disk bridge.dest job.stamp)
    (apart : ∀ bridge, plan = some bridge → AllApart job.storage bridge.dest job.stamp) :
    wp (moveAsideForRestore granted job plan)
      (fun moved after => Vacant after.disk job.storage.path ∧
        (∀ bridge, plan = some bridge → Vacant after.disk bridge.dest.path) ∧
        moved.2.map BridgePlan.dest = plan.map BridgePlan.dest)
      (fun _ _ => False) station := by
  simp only [moveAsideForRestore, wp_bind]
  apply wp_mono (moveAside_granted clear)
  · rintro moved middle ⟨gone, elsewhere⟩
    have vacant := clear.vacant gone elsewhere
    cases plan with
    | none => exact ⟨vacant, by rintro _ ⟨⟩, rfl⟩
    | some bridge =>
        have separate := apart bridge rfl
        have homes := separate _ (mem_places_path _ _) _ (mem_places_path _ _)
        have asideHome := separate _ (mem_places_preRestore _ _) _ (mem_places_path _ _)
        have homeAside := separate _ (mem_places_path _ _) _ (mem_places_preRestore _ _)
        have asides := separate _ (mem_places_preRestore _ _) _ (mem_places_preRestore _ _)
        have stillClear : Clear middle.disk bridge.dest job.stamp := by
          constructor
          · rw [elsewhere _ homeAside.1 asides.1]
            exact (bridgeClear bridge rfl).free
          · intro first isPrefix
            rw [Disk.file?, elsewhere first (fun covers => homes.1 (covers.trans isPrefix))
              fun covers => asideHome.1 (covers.trans isPrefix)]
            exact (bridgeClear bridge rfl).onTheWay first isPrefix
        simp only [wp_bind, wp_tryCatch]
        apply wp_mono (moveAside_granted stillClear)
        · rintro bridgeMoved after ⟨bridgeGone, untouched⟩
          refine ⟨⟨?_, ?_⟩, ?_, rfl⟩
          · intro below
            rw [untouched _ (homes.below below).2 (homeAside.below below).2]
            exact vacant.node below
          · intro first isPrefix
            rw [Disk.file?, untouched first (fun covers => homes.2 (covers.trans isPrefix))
              fun covers => homeAside.2 (covers.trans isPrefix)]
            exact vacant.onTheWay first isPrefix
          · intro other same
            obtain rfl := Option.some.inj same
            exact stillClear.vacant bridgeGone untouched
        · exact fun _ _ never => never.elim
  · exact fun _ _ never => never.elim

/-- What the extraction of the other side leaves vacant. -/
theorem Vacant.spared {before after : Disk} {path other : Path} (vacant : Vacant before path)
    (spares : Spares [other] before after) (apart : Apart path other)
    (made : after.isDir other = true) : Vacant after path where
  node := by
    intro below
    rw [spares path (by simpa using apart) below]
    exact vacant.node below
  onTheWay := by
    intro first isPrefix
    by_cases shared : first <+: other
    · rcases shared with ⟨rest, rfl⟩
      have isDir : after.isDir first = true := by
        by_cases last : rest = []
        · rwa [last, List.append_nil] at made
        · exact after.isDir_of_below last (Disk.exists_of_isDir made)
      cases found : after.file? first with
      | none => rfl
      | some content =>
          rw [Disk.not_isDir_of_file? found] at isDir
          cases isDir
    · have separate : Apart first other := ⟨shared, fun covers => apart.2 (covers.trans isPrefix)⟩
      have same := spares first (by simpa using separate)
      have files := same.file?_eq []
      rw [List.append_nil] at files
      rw [files]
      exact vacant.onTheWay first isPrefix

theorem extractForRestore_granted (tree : FileTree controller) (unreserved : Unreserved controller)
    (bridgeTree : FileTree bridge) {job : RestoreJob} {plan : Option BridgePlan}
    (someFile : controller ≠ []) (someBridge : plan.isSome = true → bridge ≠ [])
    (vacant : Vacant station.disk job.storage.path)
    (bridgeVacant : ∀ other, plan = some other → Vacant station.disk other.dest.path)
    (apart : ∀ other, plan = some other → AllApart job.storage other.dest job.stamp) :
    wp (extractForRestore granted (backupMembers controller bridge) job plan)
      (fun _ after => Extracted job.storage.path controller after.disk ∧
        ∀ other, plan = some other → Extracted other.dest.path bridge after.disk)
      (fun _ _ => False) station := by
  have notBridge : ArchiveSide.controller = .bridge →
      StaysInside (backupMembers controller bridge) job.storage.path := by
    rintro ⟨⟩
  simp only [extractForRestore, wp_bind]
  apply wp_mono (wp_and
    (extractSide_granted tree unreserved bridgeTree .controller someFile vacant)
    (moves_extractSide notBridge))
  · rintro _ middle ⟨extracted, moves, _⟩
    cases plan with
    | none => exact ⟨extracted, by rintro _ ⟨⟩⟩
    | some other =>
        have separate := apart other rfl _ (mem_places_path _ _) _ (mem_places_path _ _)
        have stillVacant := (bridgeVacant other rfl).spared moves.trees separate.symm
          extracted.isDir
        apply wp_mono (wp_and
          (extractSide_granted tree unreserved bridgeTree .bridge (someBridge rfl) stillVacant)
          (moves_extractSide fun _ => staysInside_backupMembers tree unreserved bridgeTree _))
        · rintro _ after ⟨bridgeExtracted, bridgeMoves, _⟩
          have same : SameTree middle.disk job.storage.path after.disk job.storage.path :=
            bridgeMoves.trees _ (by simpa using separate)
          refine ⟨⟨same.isDir_eq.trans extracted.isDir, ?_, ?_⟩, ?_⟩
          · intro below content
            rw [same.file?_eq below]
            exact extracted.file below content
          · intro below nonempty isDir
            rw [Disk.isDir, same below] at isDir
            exact extracted.directory below nonempty isDir
          · intro another equal
            obtain rfl := Option.some.inj equal
            exact bridgeExtracted
        · exact fun _ _ never => never.1.elim
  · exact fun _ _ never => never.1.elim

end Granted

/-! ## There and back -/

/-- A plan is made where there is a bridge side. -/
theorem planBridgeRestore_isSome {job : RestoreJob} {dest : StorageDir} {archive : Archive}
    (stored : job.bridgeStorage = some dest) (controlled : job.bridgeControl = true)
    (apart : AllApart job.storage dest job.stamp) :
    (planBridgeRestore job archive).isSome = !(bridgeMembersIn archive).isEmpty := by
  have separate := apart _ (mem_places_path _ _) _ (mem_places_path _ _)
  have first : dest.path.isPrefixOf job.storage.path = false := by
    rw [Bool.eq_false_iff]
    exact fun covers => separate.2 (List.isPrefixOf_iff_prefix.mp covers)
  have second : job.storage.path.isPrefixOf dest.path = false := by
    rw [Bool.eq_false_iff]
    exact fun covers => separate.1 (List.isPrefixOf_iff_prefix.mp covers)
  cases empty : (bridgeMembersIn archive).isEmpty <;>
    simp [planBridgeRestore, empty, stored, controlled, StorageDir.overlaps, first, second]

theorem Extracted.file?_eq {source disk : Disk} {root dest : Path}
    (extracted : Extracted dest (treeFiles source root) disk) (below : Path) :
    disk.file? (dest ++ below) = source.file? (root ++ below) := by
  apply Option.ext
  intro content
  rw [extracted.file, mem_treeFiles]

/-- What an accepted backup holds. -/
theorem createBackup_ok {source : Disk} {storage : StorageDir} {bridge : Option StorageDir}
    {archive : Archive} (made : createBackup source storage bridge = .ok archive) :
    source.isDir storage.path = true ∧ archive ≠ [] ∧
      archive = backupMembers (treeFiles source storage.path) (bridgeFiles source bridge) := by
  simp only [createBackup] at made
  split at made
  · cases made
  · rename_i isDir
    split at made
    · cases made
    · split at made
      · cases made
      · rename_i nonempty
        cases made
        refine ⟨by simpa using isDir, ?_, ?_⟩
        · simpa [List.isEmpty_iff] using nonempty
        · simp [backupMembers, addTree]

theorem fileTree_bridgeFiles (source : Disk) (bridge : Option StorageDir) :
    FileTree (bridgeFiles source bridge) := by
  have noFiles : FileTree [] := ⟨by rintro _ ⟨⟩, by rintro _ ⟨⟩⟩
  cases bridge with
  | none => exact noFiles
  | some bridge =>
      rw [bridgeFiles]
      split
      · rename_i isDir
        rw [isNonemptyDir, Bool.and_eq_true] at isDir
        exact fileTree_treeFiles isDir.1
      · exact noFiles

theorem bridgeFiles_eq {source : Disk} {bridge : StorageDir}
    (nonempty : bridgeFiles source (some bridge) ≠ []) :
    bridgeFiles source (some bridge) = treeFiles source bridge.path := by
  rw [bridgeFiles] at nonempty ⊢
  split at nonempty
  · rename_i isDir
    rw [if_pos isDir]
  · exact absurd rfl nonempty

theorem bridgeFiles_ne_nil {source : Disk} {bridge : StorageDir} :
    bridgeFiles source (some bridge) ≠ [] ↔
      ∃ below, below ≠ [] ∧ source.file? (bridge.path ++ below) ≠ none := by
  constructor
  · intro nonempty
    rcases List.exists_mem_of_ne_nil _ nonempty with ⟨⟨below, content⟩, member⟩
    refine ⟨below, (fileTree_bridgeFiles source (some bridge)).nonempty _ member, ?_⟩
    rw [bridgeFiles] at member
    split at member
    · simp [mem_treeFiles.mp member]
    · cases member
  · rintro ⟨below, nonempty, isFile⟩
    rcases Option.ne_none_iff_exists'.mp isFile with ⟨content, found⟩
    have present : source.node (bridge.path ++ below) ≠ none := by
      rcases Disk.file?_eq_some_iff.mp found with ⟨number, node⟩
      simp [node]
    have entries : source.hasEntries bridge.path = true := by
      by_contra missing
      exact present (Disk.node_below_eq_none (Bool.eq_false_iff.mpr missing) nonempty)
    rw [bridgeFiles, isNonemptyDir, source.isDir_of_below nonempty present, entries]
    exact List.ne_nil_of_mem (mem_treeFiles.mpr found)

/-- A restore of archived trees that meets no refusal. -/
theorem restoreBackup_granted {controller bridge : List (Path × Bytes)} {dest : StorageDir}
    {job : RestoreJob} {start : Workstation} (tree : FileTree controller)
    (unreserved : Unreserved controller) (bridgeTree : FileTree bridge) (someFile : controller ≠ [])
    (given : job.archive = .zip (backupMembers controller bridge))
    (stored : job.bridgeStorage = some dest) (controlled : job.bridgeControl = true)
    (apart : AllApart job.storage dest job.stamp)
    (clear : Clear start.disk job.storage job.stamp) (bridgeClear : Clear start.disk dest job.stamp) :
    wp (restoreBackup granted job)
      (fun report after => Extracted job.storage.path controller after.disk ∧
        (report.bridgeRestored = true ↔ bridge ≠ []) ∧
        (report.bridgeRestored = true → Extracted dest.path bridge after.disk))
      (fun _ _ => False) start := by
  have nonempty : backupMembers controller bridge ≠ [] := by simp [backupMembers, someFile]
  have safe := noZipSlip_backupMembers tree unreserved bridgeTree
  have someBridge : (planBridgeRestore job (backupMembers controller bridge)).isSome = true ↔
      bridge ≠ [] := by
    have count : (bridgeMembersIn (backupMembers controller bridge)).length = bridge.length :=
      bridgeMembersIn_backupMembers tree unreserved
    rw [planBridgeRestore_isSome stored controlled apart, Bool.not_eq_true',
      List.isEmpty_eq_false_iff, ← List.length_pos_iff, count, List.length_pos_iff]
  have planned : ∀ other, planBridgeRestore job (backupMembers controller bridge) = some other →
      other.dest = dest := by
    intro other same
    exact Option.some.inj ((dest_of_planBridgeRestore same).symm.trans stored)
  unfold restoreBackup
  simp only [given, loadAndValidateArchive, List.isEmpty_iff, nonempty, if_false, wp_bind, wp_pure,
    safe, Bool.not_true, Bool.false_eq_true, Option.any_false]
  generalize planBridgeRestore job (backupMembers controller bridge) = plan at planned someBridge ⊢
  apply wp_mono (stopForRestore_granted job plan)
  · rintro stopped middle ⟨sameDisk, rfl⟩
    have dests : ∀ other, plan.map (fun plan => { plan with wasAlive := true }) = some other →
        other.dest = dest := by
      intro other same
      rcases dest_of_map_wasAlive same with ⟨first, found, equal⟩
      rw [← equal]
      exact planned first found
    have stillBridge : (plan.map fun plan => { plan with wasAlive := true }).isSome = true ↔
        bridge ≠ [] := by
      rw [Option.isSome_map]
      exact someBridge
    generalize plan.map (fun plan => { plan with wasAlive := true }) = plan at dests stillBridge
    have middleClear : Clear middle.disk job.storage job.stamp := sameDisk ▸ clear
    have middleBridgeClear : ∀ other, plan = some other → Clear middle.disk other.dest job.stamp := by
      intro other same
      rw [dests other same, sameDisk]
      exact bridgeClear
    have apartPlan : ∀ other, plan = some other → AllApart job.storage other.dest job.stamp := by
      intro other same
      rw [dests other same]
      exact apart
    rw [wp_bind, wp_tryCatch]
    apply wp_mono (moveAsideForRestore_granted middleClear middleBridgeClear apartPlan)
    · rintro ⟨moved, plan'⟩ aside ⟨vacant, bridgeVacant, sameDests⟩
      have back : ∀ other, plan' = some other → ∃ first, plan = some first ∧ first.dest = other.dest := by
        rintro other rfl
        exact Option.map_eq_some_iff.mp sameDests.symm
      have sameSome : plan'.isSome = plan.isSome := by
        have mapped := congrArg Option.isSome sameDests
        simpa using mapped
      have someOf : plan'.isSome = true → bridge ≠ [] := by
        rw [sameSome]
        exact stillBridge.mp
      have apartAside : ∀ other, plan' = some other → AllApart job.storage other.dest job.stamp := by
        intro other same
        rcases back other same with ⟨first, found, equal⟩
        rw [← equal]
        exact apartPlan first found
      have vacantAside : ∀ other, plan' = some other → Vacant aside.disk other.dest.path := by
        intro other same
        rcases back other same with ⟨first, found, equal⟩
        rw [← equal]
        exact bridgeVacant first found
      rw [wp_bind, wp_tryCatch, extractAndStart, wp_bind]
      apply wp_mono (extractForRestore_granted tree unreserved bridgeTree someFile someOf vacant
        vacantAside apartAside)
      · rintro _ extracted ⟨controllerDone, bridgeDone⟩
        rw [wp_bind]
        apply wp_mono startController_granted
        · rintro _ started ⟨rfl, startedDisk⟩
          rw [if_neg (by simp), wp_pure, wp_bind]
          apply wp_mono (finishBridgeRestore_granted plan')
          · rintro finished after ⟨sameFinished, afterDisk⟩
            rw [wp_pure, afterDisk, startedDisk]
            refine ⟨controllerDone, ?_, ?_⟩
            · rw [sameFinished, sameSome]
              exact stillBridge
            · intro restored
              rw [sameFinished] at restored
              rcases Option.isSome_iff_exists.mp restored with ⟨other, same⟩
              rcases back other same with ⟨first, found, equal⟩
              have done := bridgeDone other same
              rwa [← equal, dests first found] at done
          · exact fun _ _ never => never.elim
        · exact fun _ _ never => never.elim
      · exact fun _ _ never => never.elim
    · exact fun _ _ never => never.elim
  · exact fun _ _ never => never.elim

/-- A restore that meets no refusal rebuilds every file of the controller, and every file of
the bridge node where the backup has any. -/
theorem restore_of_backup {source : Disk} {storage bridge dest : StorageDir} {archive : Archive}
    {job : RestoreJob} {start : Workstation}
    (made : createBackup source storage (some bridge) = .ok archive)
    (unreserved : ∀ rest, rest ≠ [] →
      source.file? (storage.path ++ BRIDGE_DIRECTORY :: rest) = none)
    (someFile : ∃ below, source.file? (storage.path ++ below) ≠ none)
    (given : job.archive = .zip archive) (stored : job.bridgeStorage = some dest)
    (controlled : job.bridgeControl = true) (apart : AllApart job.storage dest job.stamp)
    (clear : Clear start.disk job.storage job.stamp) (bridgeClear : Clear start.disk dest job.stamp) :
    let after := finalState (restoreBackup granted job start)
    ∃ report, outcome (restoreBackup granted job start) = .ok report ∧
      (∀ below, after.disk.file? (job.storage.path ++ below) =
        source.file? (storage.path ++ below)) ∧
      (report.bridgeRestored = true ↔
        ∃ below, below ≠ [] ∧ source.file? (bridge.path ++ below) ≠ none) ∧
      (report.bridgeRestored = true → ∀ below,
        after.disk.file? (dest.path ++ below) = source.file? (bridge.path ++ below)) := by
  rcases createBackup_ok made with ⟨isDir, nonempty, rfl⟩
  have plain : Unreserved (treeFiles source storage.path) := by
    rintro ⟨below, content⟩ member rest restNonempty rfl
    have found := mem_treeFiles.mp member
    rw [unreserved rest restNonempty] at found
    cases found
  have someController : treeFiles source storage.path ≠ [] := by
    rcases someFile with ⟨below, isFile⟩
    rcases Option.ne_none_iff_exists'.mp isFile with ⟨content, found⟩
    exact List.ne_nil_of_mem (mem_treeFiles.mpr found)
  have rebuilt := ok_of_wp (restoreBackup_granted (fileTree_treeFiles isDir) plain
    (fileTree_bridgeFiles source (some bridge)) someController given stored controlled apart clear
    bridgeClear)
  rcases rebuilt with ⟨report, reported, controllerDone, someBridge, bridgeDone⟩
  refine ⟨report, reported, controllerDone.file?_eq, ?_, ?_⟩
  · rw [← bridgeFiles_ne_nil]
    exact someBridge
  · intro restored
    have done := bridgeDone restored
    rw [bridgeFiles_eq (someBridge.mp restored)] at done
    exact done.file?_eq

theorem createBackup_twoFabrics : createBackup twoFabrics controllerStorage
    (some controllerStorage.bridgeStorage) = .ok twoFabricsArchive := by
  rfl

/-- A computer with an empty disk. -/
def blankStart : Workstation where
  disk := Disk.blank
  deeds := []
  errors := []
  clock := 0

theorem restore_of_backup_twoFabrics :
    ∃ report, outcome (restoreBackup granted twoFabricsJob blankStart) = .ok report ∧
      (∀ below,
        (finalState (restoreBackup granted twoFabricsJob blankStart)).disk.file?
            (twoFabricsJob.storage.path ++ below) =
          twoFabrics.file? (controllerStorage.path ++ below)) ∧
      (report.bridgeRestored = true ↔
        ∃ below, below ≠ [] ∧
          twoFabrics.file? (controllerStorage.bridgeStorage.path ++ below) ≠ none) ∧
      (report.bridgeRestored = true → ∀ below,
        (finalState (restoreBackup granted twoFabricsJob blankStart)).disk.file?
            (controllerStorage.bridgeStorage.path ++ below) =
          twoFabrics.file? (controllerStorage.bridgeStorage.path ++ below)) := by
  have files : treeFiles twoFabrics controllerStorage.path = [([CHIP_FILE], [1, 2])] := by decide
  have unreserved : ∀ rest, rest ≠ [] →
      twoFabrics.file? (controllerStorage.path ++ BRIDGE_DIRECTORY :: rest) = none := by
    intro rest nonempty
    cases found : twoFabrics.file? (controllerStorage.path ++ BRIDGE_DIRECTORY :: rest) with
    | none => rfl
    | some content =>
        have member := mem_treeFiles.mpr found
        rw [files, List.mem_singleton] at member
        exact absurd (List.cons.inj (Prod.mk.inj member).1).2 nonempty
  have someFile : ∃ below, twoFabrics.file? (controllerStorage.path ++ below) ≠ none :=
    ⟨[CHIP_FILE], by decide⟩
  have apart : AllApart twoFabricsJob.storage controllerStorage.bridgeStorage twoFabricsJob.stamp :=
    controllerStorage.bridgeStorage_apart _ (by decide) (by decide)
  have clear (storage : StorageDir) (free : Disk.blank.node
      (storage.preRestore twoFabricsJob.stamp) = none) :
      Clear blankStart.disk storage twoFabricsJob.stamp :=
    ⟨free, fun first _ => Disk.file?_blank first⟩
  exact restore_of_backup createBackup_twoFabrics unreserved someFile rfl rfl rfl apart
    (clear _ rfl) (clear _ rfl)

end IndigoMatter.Plugin.Fabric
