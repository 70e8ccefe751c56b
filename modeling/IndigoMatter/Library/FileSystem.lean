import Mathlib.Data.List.Infix
import Mathlib.Logic.Function.Basic

/-!
# Files, directories and renames

A disk maps paths to numbered nodes.  Its root is a directory, a node stands in a
directory and no two paths share a number, so a tree that has been renamed can be told
from a copy of it.  There are no links: `..` goes back to the directory a name was
looked up in.

Each operation comes with what it does at a path and, more often used, what it leaves
alone.
-/

namespace IndigoMatter.Library

/-! ## Names and paths -/

/-- The text of a directory entry: not empty, no separator, and neither of the two
entries each directory has of itself. -/
def ProperName (text : List Char) : Prop :=
  text ≠ [] ∧ text ≠ ['.'] ∧ text ≠ ['.', '.'] ∧ '/' ∉ text

instance (text : List Char) : Decidable (ProperName text) :=
  inferInstanceAs (Decidable (_ ∧ _ ∧ _ ∧ _))

/-- A name a directory can hold. -/
structure FileName where
  text : List Char
  proper : ProperName text
deriving DecidableEq

/-- The names from the root down. -/
abbrev Path := List FileName

abbrev Bytes := List UInt8

namespace FileName

/-- The name with a text of its own, if it is one. -/
def ofText? (text : List Char) : Option FileName :=
  if proper : ProperName text then some ⟨text, proper⟩ else none

@[simp]
theorem ofText?_text (name : FileName) : ofText? name.text = some name := by
  simp [ofText?, name.proper]

@[ext]
theorem ext {first second : FileName} (same : first.text = second.text) : first = second := by
  cases first
  cases second
  simpa using same

/-- A name with more text after it is a name. -/
theorem proper_append {text suffix : List Char} (proper : ProperName text)
    (plain : '/' ∉ suffix) : ProperName (text ++ suffix) := by
  rcases proper with ⟨nonempty, notSelf, notParent, noSlash⟩
  refine ⟨by simp [nonempty], ?_, ?_, by simp [noSlash, plain]⟩
  · intro self
    rcases List.append_eq_singleton_iff.mp self with ⟨isNil, -⟩ | ⟨isSelf, -⟩
    · exact nonempty isNil
    · exact notSelf isSelf
  · intro parent
    rcases List.append_eq_cons_iff.mp parent with ⟨isNil, -⟩ | ⟨rest, isDot, single⟩
    · exact nonempty isNil
    · rcases List.append_eq_singleton_iff.mp single.symm with ⟨rfl, -⟩ | ⟨rfl, -⟩
      · exact notSelf isDot
      · exact notParent isDot

end FileName

namespace Path

/-- One component of a textual path, looked up from a directory: an entry, `..`, or
nothing. -/
def enter (path : Path) (component : List Char) : Path :=
  match FileName.ofText? component with
  | some name => path ++ [name]
  | none => if component = ['.', '.'] then path.dropLast else path

/-- The paths a textual path leads through, component by component. -/
def walk (path : Path) : List (List Char) → List Path
  | [] => []
  | component :: rest => path.enter component :: walk (path.enter component) rest

/-- Where a textual path ends. -/
def resolve (path : Path) (components : List (List Char)) : Path :=
  components.foldl enter path

@[simp]
theorem enter_text (path : Path) (name : FileName) : path.enter name.text = path ++ [name] := by
  simp [enter]

@[simp]
theorem resolve_names (path names : Path) :
    path.resolve (names.map FileName.text) = path ++ names := by
  induction names generalizing path with
  | nil => simp [resolve]
  | cons name rest ih => simpa [resolve] using ih (path ++ [name])

/-- A path of names leads through its own prefixes. -/
theorem mem_walk_names {path names step : Path} :
    step ∈ path.walk (names.map FileName.text) ↔
      ∃ first, first ≠ [] ∧ first <+: names ∧ step = path ++ first := by
  induction names generalizing path with
  | nil => simp [walk]
  | cons name rest ih =>
      rw [List.map_cons, walk, enter_text, List.mem_cons, ih]
      constructor
      · rintro (rfl | ⟨first, nonempty, isPrefix, rfl⟩)
        · exact ⟨[name], by simp, by simp, rfl⟩
        · exact ⟨name :: first, by simp, by simpa using isPrefix, by simp⟩
      · rintro ⟨first, nonempty, isPrefix, rfl⟩
        cases first with
        | nil => exact absurd rfl nonempty
        | cons head tail =>
            rw [List.cons_prefix_cons] at isPrefix
            rcases isPrefix with ⟨rfl, isPrefix⟩
            cases tail with
            | nil => exact Or.inl rfl
            | cons next others => exact Or.inr ⟨next :: others, by simp, isPrefix, by simp⟩

end Path

/-! ## The disk -/

inductive Kind
  | directory
  | file (content : Bytes)
deriving DecidableEq

/-- A node of the disk: its number, and what it is. -/
structure Inode where
  number : Nat
  kind : Kind
deriving DecidableEq

/-- What a node is, where there is one. -/
def Inode.isDirectory : Option Inode → Bool
  | some ⟨_, .directory⟩ => true
  | _ => false

/-- A disk.  `listing` names every path that is taken, and maybe others. -/
structure Disk where
  node : Path → Option Inode
  listing : List Path
  nextNumber : Nat
  listed : ∀ path, node path ≠ none → path ∈ listing
  root : Inode.isDirectory (node []) = true
  rooted : ∀ path name, node (path ++ [name]) ≠ none → Inode.isDirectory (node path) = true
  numbered : ∀ path inode, node path = some inode → inode.number < nextNumber
  unique : ∀ path other first second, node path = some first → node other = some second →
    first.number = second.number → path = other

/-- Why the operating system refused. -/
inductive OsError
  | missing
  | fileExists
  | notADirectory
  | isADirectory
  | notEmpty
  | invalid
deriving DecidableEq

namespace Disk

/-- `os.path.exists`. -/
def pathExists (disk : Disk) (path : Path) : Bool := (disk.node path).isSome

/-- `os.path.isdir`. -/
def isDir (disk : Disk) (path : Path) : Bool := Inode.isDirectory (disk.node path)

/-- The bytes of the file at a path. -/
def file? (disk : Disk) (path : Path) : Option Bytes :=
  match disk.node path with
  | some ⟨_, .file content⟩ => some content
  | _ => none

/-- Whether a directory has an entry, as `any(os.scandir(path))` sees it. -/
def hasEntries (disk : Disk) (path : Path) : Bool :=
  disk.listing.any fun entry => disk.pathExists entry && entry ≠ [] && entry.dropLast = path

theorem isDir_iff {disk : Disk} {path : Path} :
    disk.isDir path = true ↔ ∃ number, disk.node path = some ⟨number, .directory⟩ := by
  unfold isDir Inode.isDirectory
  split
  · rename_i number found
    exact ⟨fun _ => ⟨number, found⟩, fun _ => rfl⟩
  · rename_i other
    constructor
    · intro impossible
      cases impossible
    · rintro ⟨number, found⟩
      exact absurd found (other number)

theorem exists_of_isDir {disk : Disk} {path : Path} (isDir : disk.isDir path = true) :
    disk.node path ≠ none := by
  rcases isDir_iff.mp isDir with ⟨number, found⟩
  simp [found]

theorem file?_eq_some_iff {disk : Disk} {path : Path} {content : Bytes} :
    disk.file? path = some content ↔ ∃ number, disk.node path = some ⟨number, .file content⟩ := by
  unfold file?
  split
  · rename_i number stored found
    rw [found]
    simp
  · rename_i other
    constructor
    · intro impossible
      cases impossible
    · rintro ⟨number, found⟩
      exact absurd found (other number content)

theorem not_isDir_of_file? {disk : Disk} {path : Path} {content : Bytes}
    (isFile : disk.file? path = some content) : disk.isDir path = false := by
  rcases file?_eq_some_iff.mp isFile with ⟨number, found⟩
  simp [isDir, Inode.isDirectory, found]

theorem hasEntries_iff {disk : Disk} {path : Path} :
    disk.hasEntries path = true ↔ ∃ name, disk.node (path ++ [name]) ≠ none := by
  simp only [hasEntries, pathExists, List.any_eq_true, Bool.and_eq_true, decide_eq_true_eq,
    Option.isSome_iff_ne_none]
  constructor
  · rintro ⟨entry, -, ⟨present, nonempty⟩, rfl⟩
    refine ⟨entry.getLast nonempty, ?_⟩
    rwa [List.dropLast_append_getLast]
  · rintro ⟨name, present⟩
    exact ⟨path ++ [name], disk.listed _ present, ⟨present, by simp⟩, by simp⟩

/-- What lies on the way to a node is a directory. -/
theorem isDir_of_below {disk : Disk} {path rest : Path} (nonempty : rest ≠ [])
    (present : disk.node (path ++ rest) ≠ none) : disk.isDir path = true := by
  induction rest using List.reverseRecOn with
  | nil => exact absurd rfl nonempty
  | append_singleton rest name ih =>
      rw [← List.append_assoc] at present
      have parent := disk.rooted _ _ present
      rcases rest with _ | ⟨head, tail⟩
      · simpa [isDir] using parent
      · exact ih (by simp) (exists_of_isDir parent)

/-- Nothing lies below a path with no entries. -/
theorem node_below_eq_none {disk : Disk} {path rest : Path} (noEntries : disk.hasEntries path = false)
    (nonempty : rest ≠ []) : disk.node (path ++ rest) = none := by
  by_contra present
  rcases rest with _ | ⟨name, rest⟩
  · exact nonempty rfl
  · have entry : disk.node (path ++ [name]) ≠ none := by
      rcases rest with _ | ⟨next, others⟩
      · exact present
      · apply exists_of_isDir
        have deeper : disk.node ((path ++ [name]) ++ (next :: others)) ≠ none := by
          simpa using present
        exact isDir_of_below (by simp) deeper
    have found := hasEntries_iff.mpr ⟨name, entry⟩
    simp [noEntries] at found

/-- Only a directory has entries. -/
theorem hasEntries_eq_false {disk : Disk} {path : Path} (notDir : disk.isDir path = false) :
    disk.hasEntries path = false := by
  rw [Bool.eq_false_iff]
  intro found
  rcases hasEntries_iff.mp found with ⟨name, present⟩
  have parent := disk.rooted _ _ present
  simp_all [isDir]

/-! ### Putting a node in place -/

/-- Put a node at a path whose parent is a directory, under the number that stands there
already or the next one.  A directory stays one. -/
def put (disk : Disk) (path : Path) (kind : Kind) (nonempty : path ≠ [])
    (parent : disk.isDir path.dropLast = true)
    (kept : disk.isDir path = true → kind = .directory) : Disk where
  node := Function.update disk.node path
    (some ⟨((disk.node path).map Inode.number).getD disk.nextNumber, kind⟩)
  listing := path :: disk.listing
  nextNumber := disk.nextNumber + 1
  listed other present := by
    by_cases same : other = path
    · simp [same]
    · rw [Function.update_of_ne same] at present
      exact List.mem_cons_of_mem _ (disk.listed other present)
  root := by
    rw [Function.update_of_ne nonempty.symm]
    exact disk.root
  rooted other name present := by
    have inDirectory : disk.isDir other = true := by
      by_cases same : other ++ [name] = path
      · simpa [← same] using parent
      · rw [Function.update_of_ne same] at present
        exact disk.rooted other name present
    by_cases same : other = path
    · subst same
      simp [Inode.isDirectory, kept inDirectory]
    · rw [Function.update_of_ne same]
      exact inDirectory
  numbered other inode found := by
    by_cases same : other = path
    · subst same
      rw [Function.update_self, Option.some.injEq] at found
      subst found
      cases standing : disk.node other with
      | none => simp
      | some stored => simpa using Nat.lt_succ_of_lt (disk.numbered other stored standing)
    · rw [Function.update_of_ne same] at found
      exact Nat.lt_succ_of_lt (disk.numbered other inode found)
  unique first second firstNode secondNode firstFound secondFound sameNumber := by
    have onlyHere : ∀ other inode, other ≠ path → disk.node other = some inode →
        inode.number ≠ ((disk.node path).map Inode.number).getD disk.nextNumber := by
      intro other inode elsewhere found numberSame
      cases standing : disk.node path with
      | none =>
          have bound := disk.numbered other inode found
          simp only [standing, Option.map_none, Option.getD_none] at numberSame
          exact absurd numberSame (Nat.ne_of_lt bound)
      | some stored =>
          simp only [standing, Option.map_some, Option.getD_some] at numberSame
          exact elsewhere (disk.unique _ _ _ _ found standing numberSame)
    by_cases firstHere : first = path <;> by_cases secondHere : second = path
    · rw [firstHere, secondHere]
    · subst firstHere
      rw [Function.update_self, Option.some.injEq] at firstFound
      rw [Function.update_of_ne secondHere] at secondFound
      subst firstFound
      exact absurd sameNumber.symm (onlyHere second secondNode secondHere secondFound)
    · subst secondHere
      rw [Function.update_self, Option.some.injEq] at secondFound
      rw [Function.update_of_ne firstHere] at firstFound
      subst secondFound
      exact absurd sameNumber (onlyHere first firstNode firstHere firstFound)
    · rw [Function.update_of_ne firstHere] at firstFound
      rw [Function.update_of_ne secondHere] at secondFound
      exact disk.unique _ _ _ _ firstFound secondFound sameNumber

/-- `os.makedirs` with `exist_ok`, for the last directory of a path whose others are
there: it is made if nothing is in its place. -/
def ensureDir (disk : Disk) (path : Path) : Except OsError Disk :=
  if isDirectory : disk.isDir path then .ok disk
  else if disk.pathExists path then .error .fileExists
  else if parent : disk.isDir path.dropLast then
    .ok (disk.put path .directory
      (fun isRoot => isDirectory (isRoot ▸ disk.root)) parent (fun _ => rfl))
  else .error .missing

/-- `open(path, "wb")` and a write of the whole content. -/
def writeFile (disk : Disk) (path : Path) (content : Bytes) : Except OsError Disk :=
  if isDirectory : disk.isDir path then .error .isADirectory
  else if parent : disk.isDir path.dropLast then
    .ok (disk.put path (.file content)
      (fun isRoot => isDirectory (isRoot ▸ disk.root)) parent
      (fun present => absurd present isDirectory))
  else .error .missing

/-- What making a directory changes: nothing, or one path that was free. -/
theorem ensureDir_ok {disk final : Disk} {path : Path} (made : disk.ensureDir path = .ok final) :
    final.isDir path = true ∧ (∀ other, other ≠ path → final.node other = disk.node other) ∧
      (disk.node path ≠ none → final.node path = disk.node path) := by
  unfold ensureDir at made
  split at made
  · rename_i isDirectory
    cases made
    exact ⟨isDirectory, fun _ _ => rfl, fun _ => rfl⟩
  · split at made
    · cases made
    · rename_i free
      split at made
      · cases made
        refine ⟨by simp [isDir, put, Inode.isDirectory], ?_, ?_⟩
        · intro other elsewhere
          exact Function.update_of_ne elsewhere _ _
        · intro present
          simp [pathExists, Option.isSome_iff_ne_none, present] at free
      · cases made

/-- What writing a file changes: the file alone. -/
theorem writeFile_ok {disk final : Disk} {path : Path} {content : Bytes}
    (written : disk.writeFile path content = .ok final) :
    final.file? path = some content ∧ ∀ other, other ≠ path → final.node other = disk.node other := by
  unfold writeFile at written
  split at written
  · cases written
  · split at written
    · cases written
      exact ⟨by simp [file?, put], fun other elsewhere => Function.update_of_ne elsewhere _ _⟩
    · cases written

/-- A directory can be made where its parent is one and no file is in its place. -/
theorem ensureDir_succeeds {disk : Disk} {path : Path} (parent : disk.isDir path.dropLast = true)
    (notFile : disk.file? path = none) : ∃ final, disk.ensureDir path = .ok final := by
  unfold ensureDir
  split
  · exact ⟨_, rfl⟩
  · rename_i notDirectory
    split
    · rename_i present
      exfalso
      rcases Option.isSome_iff_exists.mp present with ⟨⟨number, kind⟩, found⟩
      cases kind with
      | directory => exact notDirectory (isDir_iff.mpr ⟨number, found⟩)
      | file content => simp [file?, found] at notFile
    · exact ⟨_, rfl⟩

/-- A file can be written where its parent is a directory and it is not one itself. -/
theorem writeFile_succeeds {disk : Disk} {path : Path} {content : Bytes}
    (parent : disk.isDir path.dropLast = true) (notDirectory : disk.isDir path = false) :
    ∃ final, disk.writeFile path content = .ok final := by
  unfold writeFile
  rw [dif_neg (by simp [notDirectory]), dif_pos parent]
  exact ⟨_, rfl⟩

/-! ### Renames -/

/-- The node a path shows once `source` has been moved to `target`. -/
def relocated (disk : Disk) (source target path : Path) : Option Inode :=
  if target <+: path then disk.node (source ++ path.drop target.length)
  else if source <+: path then none
  else disk.node path

@[simp]
theorem relocated_append (disk : Disk) (source target rest : Path) :
    disk.relocated source target (target ++ rest) = disk.node (source ++ rest) := by
  simp [relocated]

/-- Move a tree to a path that holds nothing below it. -/
def move (disk : Disk) (source target : Path) (outside : ¬ source <+: target)
    (nonempty : target ≠ []) (parent : disk.isDir target.dropLast = true) : Disk where
  node := disk.relocated source target
  listing := disk.listing ++ disk.listing.map fun path => target ++ path.drop source.length
  nextNumber := disk.nextNumber
  listed path present := by
    rw [List.mem_append]
    unfold relocated at present
    split at present
    · rename_i below
      rcases below with ⟨rest, rfl⟩
      right
      rw [List.drop_left] at present
      exact List.mem_map.mpr ⟨source ++ rest, disk.listed _ present, by simp⟩
    · split at present
      · exact absurd rfl present
      · exact Or.inl (disk.listed path present)
  root := by
    have sourceNonempty : ¬ source <+: [] := by
      intro isPrefix
      rw [List.prefix_nil] at isPrefix
      exact outside (isPrefix ▸ List.nil_prefix)
    rw [relocated, if_neg (by rwa [List.prefix_nil]), if_neg sourceNonempty]
    exact disk.root
  rooted path name present := by
    by_cases below : target <+: path
    · rcases below with ⟨rest, rfl⟩
      rw [List.append_assoc, relocated_append, ← List.append_assoc] at present
      rw [relocated_append]
      exact disk.rooted _ _ present
    · by_cases isTarget : target = path ++ [name]
      · have moved : ¬ source <+: path := by
          intro isPrefix
          exact outside (isTarget ▸ isPrefix.trans (List.prefix_append _ _))
        rw [relocated, if_neg below, if_neg moved]
        simpa [isTarget, isDir] using parent
      · have notBelow : ¬ target <+: path ++ [name] := by
          rw [List.prefix_concat_iff]
          exact not_or.mpr ⟨isTarget, below⟩
        rw [relocated, if_neg notBelow] at present
        split at present
        · exact absurd rfl present
        · rename_i moved
          have kept : ¬ source <+: path := fun isPrefix =>
            moved (isPrefix.trans (List.prefix_append _ _))
          rw [relocated, if_neg below, if_neg kept]
          exact disk.rooted path name present
  numbered path inode found := by
    unfold relocated at found
    split at found
    · exact disk.numbered _ inode found
    · split at found
      · cases found
      · exact disk.numbered _ inode found
  unique first second firstNode secondNode firstFound secondFound sameNumber := by
    unfold relocated at firstFound secondFound
    split at firstFound <;> split at secondFound
    · rename_i firstBelow secondBelow
      rcases firstBelow with ⟨firstRest, rfl⟩
      rcases secondBelow with ⟨secondRest, rfl⟩
      have same := disk.unique _ _ _ _ firstFound secondFound sameNumber
      simpa using same
    · split at secondFound
      · cases secondFound
      · rename_i moved
        have same := disk.unique _ _ _ _ firstFound secondFound sameNumber
        exact absurd (same ▸ List.prefix_append _ _) moved
    · split at firstFound
      · cases firstFound
      · rename_i moved
        have same := disk.unique _ _ _ _ firstFound secondFound sameNumber
        exact absurd (same ▸ List.prefix_append _ _) moved
    · split at firstFound
      · cases firstFound
      · split at secondFound
        · cases secondFound
        · exact disk.unique _ _ _ _ firstFound secondFound sameNumber

/-- `os.rename`: a file may take the place of a file and a directory that of an empty
directory. -/
def rename (disk : Disk) (source target : Path) : Except OsError Disk :=
  if disk.node source = none then .error .missing
  else if source = target then .ok disk
  else if outside : source <+: target then .error .invalid
  else if nonempty : target = [] then .error .notEmpty
  else if parent : disk.isDir target.dropLast then
    if disk.isDir target && !disk.isDir source then .error .isADirectory
    else if disk.pathExists target && !disk.isDir target && disk.isDir source then
      .error .notADirectory
    else if disk.hasEntries target then .error .notEmpty
    else .ok (disk.move source target outside nonempty parent)
  else .error .missing

/-- A rename moves the whole tree: it is at the target as it was at the source, the
source is gone, and no other path is touched. -/
theorem rename_ok {disk final : Disk} {source target : Path} (different : source ≠ target)
    (renamed : disk.rename source target = .ok final) :
    disk.node source ≠ none ∧
      (∀ rest, final.node (target ++ rest) = disk.node (source ++ rest)) ∧
      (¬ target <+: source → ∀ rest, final.node (source ++ rest) = none) ∧
      ∀ path, ¬ source <+: path → ¬ target <+: path → final.node path = disk.node path := by
  unfold rename at renamed
  split at renamed
  · cases renamed
  · rename_i present
    split at renamed
    · cases renamed
    · rename_i outside
      split at renamed
      · cases renamed
      · split at renamed
        · split at renamed
          · cases renamed
          · split at renamed
            · cases renamed
            · split at renamed
              · cases renamed
              · cases renamed
                refine ⟨present, fun rest => relocated_append disk source target rest, ?_, ?_⟩
                · intro apart rest
                  have notBelow : ¬ target <+: source ++ rest := by
                    intro below
                    rcases List.prefix_or_prefix_of_prefix below (List.prefix_append source rest) with
                      isPrefix | isPrefix
                    · exact apart isPrefix
                    · exact outside isPrefix
                  simp [move, relocated, if_neg notBelow]
                · intro path notSource notTarget
                  simp only [move, relocated, if_neg notTarget, if_neg notSource]
        · cases renamed

/-- A directory can be renamed to a path nothing is at. -/
theorem rename_succeeds {disk : Disk} {source target : Path} (present : disk.isDir source = true)
    (free : disk.node target = none) (outside : ¬ source <+: target)
    (parent : disk.isDir target.dropLast = true) :
    ∃ final, disk.rename source target = .ok final := by
  have nonempty : target ≠ [] := by
    rintro rfl
    have isRoot := disk.root
    rw [free] at isRoot
    cases isRoot
  have notDirectory : disk.isDir target = false := by simp [isDir, Inode.isDirectory, free]
  have different : source ≠ target := fun same => outside (same ▸ List.prefix_rfl)
  unfold rename
  rw [if_neg (exists_of_isDir present), if_neg different, dif_neg outside, dif_neg nonempty,
    dif_pos parent]
  simp [notDirectory, pathExists, free, hasEntries_eq_false notDirectory]

/-! ### The empty disk -/

/-- A disk with nothing on it. -/
def blank : Disk where
  node path := if path = [] then some ⟨0, .directory⟩ else none
  listing := [[]]
  nextNumber := 1
  listed path present := by
    by_cases isRoot : path = []
    · simp [isRoot]
    · simp [isRoot] at present
  root := rfl
  rooted path name present := by simp at present
  numbered path inode found := by
    split at found
    · cases found
      decide
    · cases found
  unique path other first second found otherFound _ := by
    split at found
    · split at otherFound
      · simp_all
      · cases otherFound
    · cases found

theorem file?_blank (path : Path) : blank.file? path = none := by
  simp only [file?, blank]
  by_cases isRoot : path = []
  · simp [isRoot]
  · simp [isRoot]

end Disk
end IndigoMatter.Library
