import IndigoMatter.Library.Fallible
import IndigoMatter.Library.FileSystem

/-!
# The archive of a fabric

One archive holds the storage directories of two daemons: the members of the controller
under their own names, those of the bridge node under a reserved one.  Reading it back sorts
the members again and writes each of them below the directory of its side.

Whatever the operating system is asked to do can be refused: each call takes its answer from
a script, so that a property of all scripts is a property of all failures.
-/

namespace IndigoMatter.Plugin.Fabric

open IndigoMatter.Library

/-! ## Storage directories -/

/-- A moment as it stands in a name. -/
structure Stamp where
  text : List Char
  plain : '/' ∉ text

/-- The path of a storage directory, which is not the root. -/
structure StorageDir where
  parent : Path
  name : FileName
deriving DecidableEq

namespace StorageDir

def path (storage : StorageDir) : Path := storage.parent ++ [storage.name]

/-- A sibling whose name only adds to the name of the directory. -/
def sibling (storage : StorageDir) (suffix : List Char) (plain : '/' ∉ suffix) : Path :=
  storage.parent ++
    [⟨storage.name.text ++ suffix, FileName.proper_append storage.name.proper plain⟩]

/-- `f"{path}.pre-restore-{stamp}"`. -/
def preRestore (storage : StorageDir) (stamp : Stamp) : Path :=
  storage.sibling (".pre-restore-".toList ++ stamp.text) (by simp [stamp.plain])

/-- `f"{path}.failed-{stamp}"`. -/
def failedAside (storage : StorageDir) (stamp : Stamp) : Path :=
  storage.sibling (".failed-".toList ++ stamp.text) (by simp [stamp.plain])

end StorageDir

/-! ## Members -/

/-- A member of an archive. -/
structure Member where
  name : List Char
  content : Bytes
deriving DecidableEq

abbrev Archive := List Member

/-- `BRIDGE_MEMBER_PREFIX`. -/
def BRIDGE_MEMBER_PREFIX : List Char := "bridge-node/".toList

/-- `zf.namelist()`. -/
def Archive.namelist (archive : Archive) : List (List Char) := archive.map Member.name

/-- `zf.open(name)`: of several members with a name, the last. -/
def Archive.open? (archive : Archive) (name : List Char) : Option Bytes :=
  (archive.reverse.find? fun member => member.name = name).map Member.content

/-- Which side of an archive is meant. -/
inductive ArchiveSide
  | controller
  | bridge
deriving DecidableEq

/-- `_members_for`. -/
def membersFor (names : List (List Char)) : ArchiveSide → List (List Char)
  | .controller => names.filter fun name => !BRIDGE_MEMBER_PREFIX.isPrefixOf name
  | .bridge => names.filter fun name =>
      BRIDGE_MEMBER_PREFIX.isPrefixOf name && name ≠ BRIDGE_MEMBER_PREFIX

/-- `member[len(prefix):]`. -/
def relativeName : ArchiveSide → List Char → List Char
  | .controller, name => name
  | .bridge, name => name.drop BRIDGE_MEMBER_PREFIX.length

/-- Where `os.path.join(dest, name)` is looked up from. -/
def lookupStart (dest : Path) (name : List Char) : Path :=
  if name.head? = some '/' then [] else dest

/-- `os.path.realpath(os.path.join(dest, name))`, with no links on the way. -/
def landing (dest : Path) (name : List Char) : Path :=
  (lookupStart dest name).resolve (name.splitOn '/')

/-- What `_assert_no_zip_slip` accepts. -/
def noZipSlip (names : List (List Char)) (dest : Path) (side : ArchiveSide) : Bool :=
  (membersFor names side).all fun name => dest.isPrefixOf (landing dest (relativeName side name))

/-! ## A computer that can refuse -/

/-- The answer of a daemon control: `True`, `False`, or an exception. -/
inductive CallAnswer
  | yes
  | no
  | raises
deriving DecidableEq

/-- How the write of a file goes: to its end, or until it raises, with nothing opened or with
some bytes written. -/
inductive WriteAnswer
  | completes
  | raises (left : Option Bytes)

/-- The answers one call could get, each for its own kind of call. -/
structure Answer where
  control : CallAnswer
  directory : Bool
  writing : WriteAnswer

/-- What is done to the daemons. -/
inductive Deed
  | controllerStopped
  | controllerStarted
  | bridgeStopped
  | bridgeStarted
deriving DecidableEq

/-- What a restore logs as an error. -/
inductive ErrorLine
  | bridgeNotRestarted
  | undoFailed (aside home : Path)
  | controllerRestartRaised
  | controllerDown (home : Path)
  | bridgeRollbackFailed (aside : Option Path) (home : Path)
  | rollbackFailed (aside : Option Path) (home : Path) (bridgeStopped : Bool)
  | bridgeNotStarted (home : Path)
deriving DecidableEq

/-- What a restore raises, or catches on the way. -/
inductive Failure
  | archiveMissing
  | notAnArchive
  | corruptMember
  | noMembers
  | zipSlip
  | bridgeNotStopped
  | controllerNotStopped
  | controlRaised
  | osError
  | writeRaised
  | emptyStorage (path : Path)
  | controllerNotStarted
  | doubleFault (aside home : Path)
  | strandedAside (aside home : Path)
  | movingAsideFailed
  | rolledBack (preservedAt : Path)
deriving DecidableEq

/-- The disk, what has been done to the daemons, each with the disk at the time, and the
error log; `clock` counts the answers taken. -/
structure Workstation where
  disk : Disk
  deeds : List (Deed × Disk)
  errors : List ErrorLine
  clock : Nat

abbrev Restoring := EStateM Failure Workstation

section Calls

variable (answers : Nat → Answer)

/-- Take the next answer. -/
def nextAnswer : Restoring Answer := do
  let station ← get
  set { station with clock := station.clock + 1 }
  return answers station.clock

/-- A file operation that happens entirely or not at all. -/
def onDisk (operation : Disk → Except OsError Disk) : Restoring Unit := do
  let answer ← nextAnswer answers
  let station ← get
  if answer.directory then
    match operation station.disk with
    | .ok disk => set { station with disk }
    | .error _ => throw .osError
  else throw .osError

/-- `os.rename`. -/
def osRename (source target : Path) : Restoring Unit :=
  onDisk answers fun disk => disk.rename source target

/-- One step of `os.makedirs(…, exist_ok=True)`. -/
def makeDir (path : Path) : Restoring Unit := do
  let station ← get
  if station.disk.isDir path then return
  else onDisk answers fun disk => disk.ensureDir path

/-- `os.makedirs(…, exist_ok=True)`. -/
def makeDirs (start : Path) (components : List (List Char)) : Restoring Unit :=
  forM (start.walk components) (makeDir answers)

/-- `open(path, "wb")` and a copy of the content. -/
def writeMember (path : Path) (content : Bytes) : Restoring Unit := do
  let answer ← nextAnswer answers
  let station ← get
  match answer.writing with
  | .completes =>
      match station.disk.writeFile path content with
      | .ok disk => set { station with disk }
      | .error _ => throw .osError
  | .raises none => throw .writeRaised
  | .raises (some left) =>
      match station.disk.writeFile path left with
      | .ok disk =>
          set { station with disk }
          throw .writeRaised
      | .error _ => throw .osError

/-! ## Extraction -/

/-- `ZipFile._extract_member`: what is not a name is left out of the path.  The destination
is there, as a restore makes it first, and no name on the disk is a link. -/
def extractMember (dest : Path) (name : List Char) (content : Bytes) : Restoring Unit := do
  let parts := (name.splitOn '/').filterMap FileName.ofText?
  makeDirs answers dest (parts.dropLast.map FileName.text)
  if name.getLast? = some '/' then makeDir answers (dest ++ parts)
  else writeMember answers (dest ++ parts) content

/-- The copy by hand of a bridge member, to a destination that is there. -/
def copyMember (dest : Path) (name : List Char) (content : Bytes) : Restoring Unit := do
  let rel := relativeName .bridge name
  let components := rel.splitOn '/'
  if rel.getLast? = some '/' then makeDirs answers (lookupStart dest rel) components
  else do
    makeDirs answers (lookupStart dest rel) components.dropLast
    writeMember answers (landing dest rel) content

/-- `_safe_extract`. -/
def safeExtract (archive : Archive) (dest : Path) (side : ArchiveSide) : Restoring Unit := do
  if !noZipSlip archive.namelist dest side then throw .zipSlip
  forM (membersFor archive.namelist side) fun name =>
    match side with
    | .controller => extractMember answers dest name ((archive.open? name).getD [])
    | .bridge => copyMember answers dest name ((archive.open? name).getD [])

end Calls

/-! ## What an extraction touches -/

/-- The daemons and the log are as they were, directories and files are new only where they
may be, and only files that may be written have other bytes. -/
structure Touches (directories files : Path → Prop) (before after : Workstation) : Prop where
  node : ∀ path, ¬ directories path → ¬ files path → after.disk.node path = before.disk.node path
  file : ∀ path, ¬ files path → after.disk.file? path = before.disk.file? path
  deeds : after.deeds = before.deeds
  errors : after.errors = before.errors

namespace Touches

variable {directories files more moreFiles : Path → Prop} {before middle after : Workstation}

protected theorem refl (directories files : Path → Prop) (station : Workstation) :
    Touches directories files station station :=
  ⟨fun _ _ _ => rfl, fun _ _ => rfl, rfl, rfl⟩

protected theorem trans (first : Touches directories files before middle)
    (second : Touches directories files middle after) : Touches directories files before after where
  node := fun path notDirectory notFile =>
    (second.node path notDirectory notFile).trans (first.node path notDirectory notFile)
  file := fun path notFile => (second.file path notFile).trans (first.file path notFile)
  deeds := second.deeds.trans first.deeds
  errors := second.errors.trans first.errors

theorem mono (touches : Touches directories files before after)
    (more_ : ∀ path, directories path → more path) (moreFiles_ : ∀ path, files path → moreFiles path) :
    Touches more moreFiles before after where
  node := fun path notDirectory notFile =>
    touches.node path (fun is => notDirectory (more_ path is)) fun is => notFile (moreFiles_ path is)
  file := fun path notFile => touches.file path fun is => notFile (moreFiles_ path is)
  deeds := touches.deeds
  errors := touches.errors

end Touches

section Frames

variable {answers : Nat → Answer} {station : Workstation}

theorem wp_onDisk {operation : Disk → Except OsError Disk} {post : Unit → Workstation → Prop}
    {onThrow : Failure → Workstation → Prop}
    (works : ∀ disk, operation station.disk = .ok disk →
      post () { station with disk, clock := station.clock + 1 })
    (refused : onThrow .osError { station with clock := station.clock + 1 }) :
    wp (onDisk answers operation) post onThrow station := by
  simp only [onDisk, nextAnswer, wp_bind, wp_get, wp_set, wp_pure]
  split
  · cases result : operation station.disk with
    | ok disk => exact works disk result
    | error error => exact refused
  · exact refused

theorem touches_makeDir (path : Path) :
    wp (makeDir answers path)
      (fun _ after => Touches (· = path) (fun _ => False) station after ∧
        after.disk.isDir path = true)
      (fun _ after => Touches (· = path) (fun _ => False) station after) station := by
  simp only [makeDir, wp_bind, wp_get]
  cases there : station.disk.isDir path with
  | true =>
      simp only [if_true, wp_pure]
      exact ⟨.refl _ _ _, there⟩
  | false =>
      simp only [Bool.false_eq_true, if_false]
      apply wp_onDisk
      · intro disk made
        rcases Disk.ensureDir_ok made with ⟨isDir, elsewhere, kept⟩
        refine ⟨⟨fun other differs _ => elsewhere other differs, ?_, rfl, rfl⟩, isDir⟩
        intro other _
        by_cases same : other = path
        · subst same
          cases before : station.disk.node other with
          | none =>
              rcases Disk.isDir_iff.mp isDir with ⟨number, found⟩
              simp [Disk.file?, found, before]
          | some inode =>
              have unmoved := kept (by simp [before])
              simp [Disk.file?, unmoved]
        · simp [Disk.file?, elsewhere other same]
      · exact ⟨fun _ _ _ => rfl, fun _ _ => rfl, rfl, rfl⟩

theorem touches_makeDirs {directories : Path → Prop} (start : Path)
    (components : List (List Char)) (allowed : ∀ step ∈ start.walk components, directories step) :
    wp (makeDirs answers start components)
      (fun _ after => Touches directories (fun _ => False) station after)
      (fun _ after => Touches directories (fun _ => False) station after) station := by
  unfold makeDirs
  apply wp_mono (wp_forM
    (fun rest after => (∀ step ∈ rest, directories step) ∧
      Touches directories (fun _ => False) station after)
    (fun _ after => Touches directories (fun _ => False) station after) ?_ _ station
    ⟨allowed, .refl _ _ _⟩)
  · exact fun _ _ done => done.2
  · exact fun _ _ thrown => thrown
  · rintro step rest middle ⟨still, earlier⟩
    have here : ∀ path, path = step → directories path := fun path same =>
      same ▸ still step List.mem_cons_self
    apply wp_mono (touches_makeDir step)
    · rintro _ after ⟨touched, _⟩
      exact ⟨fun other member => still other (List.mem_cons_of_mem _ member),
        earlier.trans (touched.mono here fun _ never => never)⟩
    · rintro _ after touched
      exact earlier.trans (touched.mono here fun _ never => never)

theorem touches_writeMember (path : Path) (content : Bytes) :
    wp (writeMember answers path content)
      (fun _ after => Touches (fun _ => False) (· = path) station after)
      (fun _ after => Touches (fun _ => False) (· = path) station after) station := by
  have written (stored : Bytes) (disk : Disk) (done : station.disk.writeFile path stored = .ok disk)
      (clock : Nat) :
      Touches (fun _ => False) (· = path) station { station with disk, clock } := by
    rcases Disk.writeFile_ok done with ⟨_, elsewhere⟩
    exact ⟨fun other _ differs => elsewhere other differs,
      fun other differs => by simp [Disk.file?, elsewhere other differs], rfl, rfl⟩
  have idle (clock : Nat) : Touches (fun _ => False) (· = path) station { station with clock } :=
    ⟨fun _ _ _ => rfl, fun _ _ => rfl, rfl, rfl⟩
  simp only [writeMember, nextAnswer, wp_bind, wp_get, wp_set, wp_pure]
  split
  · cases done : station.disk.writeFile path content with
    | ok disk => exact written content disk done _
    | error error => exact idle _
  · exact idle _
  · rename_i left _
    cases done : station.disk.writeFile path left with
    | ok disk => exact written left disk done _
    | error error => exact idle _

/-- A member that is extracted with its directories touches those directories and one file. -/
theorem touches_extract {directories files : Path → Prop} {start target : Path}
    {components : List (List Char)} {content : Bytes}
    (allowed : ∀ step ∈ start.walk components, directories step) (mayWrite : files target) :
    wp (do
        makeDirs answers start components
        writeMember answers target content)
      (fun _ after => Touches directories files station after)
      (fun _ after => Touches directories files station after) station := by
  rw [wp_bind]
  apply wp_mono (touches_makeDirs start components allowed)
  · intro _ middle made
    have earlier : Touches directories files station middle :=
      made.mono (fun _ is => is) fun _ never => never.elim
    apply wp_mono (touches_writeMember target content)
    · intro _ after written
      exact earlier.trans (written.mono (fun _ never => never.elim) fun _ same => same ▸ mayWrite)
    · intro _ after written
      exact earlier.trans (written.mono (fun _ never => never.elim) fun _ same => same ▸ mayWrite)
  · exact fun _ _ made => made.mono (fun _ is => is) fun _ never => never.elim

/-- The directories a path of names leads through are below the one it starts from. -/
theorem isBelow_of_mem_walk_names {dest names step : Path}
    (member : step ∈ dest.walk (names.map FileName.text)) : dest <+: step := by
  rcases Path.mem_walk_names.mp member with ⟨first, _, _, rfl⟩
  exact List.prefix_append dest first

theorem touches_extractMember (dest : Path) (name : List Char) (content : Bytes) :
    wp (extractMember answers dest name content)
      (fun _ after => Touches (dest <+: ·) (dest <+: ·) station after)
      (fun _ after => Touches (dest <+: ·) (dest <+: ·) station after) station := by
  unfold extractMember
  split
  · rw [wp_bind]
    apply wp_mono (touches_makeDirs dest _ fun step => isBelow_of_mem_walk_names)
    · intro _ middle made
      have earlier : Touches (dest <+: ·) (dest <+: ·) station middle :=
        made.mono (fun _ is => is) fun _ never => never.elim
      apply wp_mono (touches_makeDir _)
      · rintro _ after ⟨touched, _⟩
        exact earlier.trans (touched.mono (fun _ same => same ▸ List.prefix_append dest _)
          fun _ never => never.elim)
      · intro _ after touched
        exact earlier.trans (touched.mono (fun _ same => same ▸ List.prefix_append dest _)
          fun _ never => never.elim)
    · exact fun _ _ made => made.mono (fun _ is => is) fun _ never => never.elim
  · exact touches_extract (fun step => isBelow_of_mem_walk_names) (List.prefix_append dest _)

theorem mem_walk_of_mem_walk_dropLast {start step : Path} {components : List (List Char)}
    (member : step ∈ start.walk components.dropLast) : step ∈ start.walk components := by
  induction components generalizing start with
  | nil => exact member
  | cons component rest ih =>
      cases rest with
      | nil => cases member
      | cons next others =>
          rw [List.dropLast_cons_cons, Path.walk] at member
          rw [Path.walk]
          rcases List.mem_cons.mp member with rfl | deeper
          · exact List.mem_cons_self
          · exact List.mem_cons_of_mem _ (ih deeper)

/-- The directories that the lookup of a bridge member leads through. -/
def passes (dest : Path) (name : List Char) : List Path :=
  (lookupStart dest (relativeName .bridge name)).walk ((relativeName .bridge name).splitOn '/')

theorem touches_copyMember {directories files : Path → Prop} {dest : Path} {name : List Char}
    (content : Bytes) (allowed : ∀ step ∈ passes dest name, directories step)
    (mayWrite : files (landing dest (relativeName .bridge name))) :
    wp (copyMember answers dest name content)
      (fun _ after => Touches directories files station after)
      (fun _ after => Touches directories files station after) station := by
  simp only [copyMember]
  split
  · apply wp_mono (touches_makeDirs _ _ allowed)
    · exact fun _ _ made => made.mono (fun _ is => is) fun _ never => never.elim
    · exact fun _ _ made => made.mono (fun _ is => is) fun _ never => never.elim
  · exact touches_extract (fun step member => allowed step (mem_walk_of_mem_walk_dropLast member))
      mayWrite

/-- The directories that an extraction may make. -/
def MayMake (archive : Archive) (dest : Path) : ArchiveSide → Path → Prop
  | .controller => fun path => dest <+: path
  | .bridge => fun path => ∃ name ∈ membersFor archive.namelist .bridge, path ∈ passes dest name

theorem touches_safeExtract (archive : Archive) (dest : Path) (side : ArchiveSide) :
    wp (safeExtract answers archive dest side)
      (fun _ after => Touches (MayMake archive dest side) (dest <+: ·) station after)
      (fun _ after => Touches (MayMake archive dest side) (dest <+: ·) station after) station := by
  unfold safeExtract
  cases safe : noZipSlip archive.namelist dest side with
  | false =>
      simp only [Bool.not_false, if_true, wp_bind, wp_throw]
      exact .refl _ _ _
  | true =>
      simp only [Bool.not_true, Bool.false_eq_true, if_false]
      apply wp_mono (wp_forM
        (fun rest after => (∀ name ∈ rest, name ∈ membersFor archive.namelist side) ∧
          Touches (MayMake archive dest side) (dest <+: ·) station after)
        (fun _ after => Touches (MayMake archive dest side) (dest <+: ·) station after) ?_ _ station
        ⟨fun _ member => member, .refl _ _ _⟩)
      · exact fun _ _ done => done.2
      · exact fun _ _ thrown => thrown
      · rintro name rest middle ⟨listed, earlier⟩
        have here := listed name List.mem_cons_self
        have still : ∀ other ∈ rest, other ∈ membersFor archive.namelist side :=
          fun other member => listed other (List.mem_cons_of_mem _ member)
        cases side with
        | controller =>
            apply wp_mono (touches_extractMember dest name _)
            · exact fun _ after touched => ⟨still, earlier.trans touched⟩
            · exact fun _ after touched => earlier.trans touched
        | bridge =>
            have lands : dest <+: landing dest (relativeName .bridge name) := by
              have accepted := List.all_eq_true.mp safe name here
              exact List.isPrefixOf_iff_prefix.mp accepted
            have made : ∀ step ∈ passes dest name, MayMake archive dest .bridge step :=
              fun step passed => ⟨name, here, passed⟩
            apply wp_mono (touches_copyMember _ made lands)
            · exact fun _ after touched => ⟨still, earlier.trans touched⟩
            · exact fun _ after touched => earlier.trans touched

/-- Whatever an archive contains and whatever is refused, no byte outside the directory is
written, and the controller side makes no directory there either. -/
theorem safeExtract_writes_inside (answers : Nat → Answer) (archive : Archive) (dest : Path)
    (side : ArchiveSide) (start : Workstation) :
    let after := finalState (safeExtract answers archive dest side start)
    (∀ path, ¬ dest <+: path → after.disk.file? path = start.disk.file? path) ∧
      (side = .controller → ∀ path, ¬ dest <+: path →
        after.disk.node path = start.disk.node path) := by
  apply final_of_wp fun after : Workstation =>
    (∀ path, ¬ dest <+: path → after.disk.file? path = start.disk.file? path) ∧
      (side = .controller → ∀ path, ¬ dest <+: path →
        after.disk.node path = start.disk.node path)
  have inside {after : Workstation}
      (touched : Touches (MayMake archive dest side) (dest <+: ·) start after) :
      (∀ path, ¬ dest <+: path → after.disk.file? path = start.disk.file? path) ∧
        (side = .controller → ∀ path, ¬ dest <+: path →
          after.disk.node path = start.disk.node path) := by
    refine ⟨touched.file, ?_⟩
    rintro rfl path outside
    exact touched.node path outside outside
  apply wp_mono (touches_safeExtract archive dest side)
  · exact fun _ _ touched => inside touched
  · exact fun _ _ touched => inside touched

end Frames

end IndigoMatter.Plugin.Fabric
