import IndigoMatter.Library.InsertionMap

/-!
# Replacing a file

A directory maps names to contents.  A call on it returns, throws and has done
nothing, or is the last thing its process does.  A write that does not return may
leave anything under its name, so a file is replaced by writing another one and
renaming it: whatever happens on the way, the file holds what it held before or what
was to be written.
-/

namespace IndigoMatter.Library

universe u v w

/-- What a call throws; `notFound` when there was no such file. -/
structure FileError where
  notFound : Bool
  message : String
deriving DecidableEq

/-- How a call ends.  A process that dies in one may have had its effect already. -/
inductive CallEnd
  | returns
  | throws (message : String)
  | dies (effective : Bool)
deriving DecidableEq

/-- What comes of a computation that can throw and whose process can die in it. -/
inductive Attempt (α : Type u)
  | returned (value : α)
  | threw (error : FileError)
  | died

namespace Attempt

variable {α : Type u} {β : Type v}

/-- What was returned, if anything was. -/
def value? : Attempt α → Option α
  | returned value => some value
  | threw _ | died => none

/-- Change what is returned. -/
def map (f : α → β) : Attempt α → Attempt β
  | returned value => returned (f value)
  | threw error => threw error
  | died => died

@[simp]
theorem value?_map (f : α → β) (attempt : Attempt α) :
    (attempt.map f).value? = attempt.value?.map f := by
  cases attempt <;> rfl

end Attempt

namespace Directory

variable {κ : Type u} {γ : Type v} [DecidableEq κ]

/-- Write a file; `left` is what a write that does not return leaves of it. -/
def write (ending : CallEnd) (left : Option γ) (name : κ) (content : γ)
    (directory : InsertionMap κ γ) : Attempt Unit × InsertionMap κ γ :=
  let partly := left.elim directory (directory.set name ·)
  match ending with
  | .returns => (.returned (), directory.set name content)
  | .throws message => (.threw ⟨false, message⟩, partly)
  | .dies _ => (.died, partly)

/-- Rename a file, over another one if there is one. -/
def rename (ending : CallEnd) (source target : κ) (directory : InsertionMap κ γ) :
    Attempt Unit × InsertionMap κ γ :=
  match directory.get? source with
  | none =>
      match ending with
      | .returns => (.threw ⟨true, "ENOENT"⟩, directory)
      | .throws message => (.threw ⟨false, message⟩, directory)
      | .dies _ => (.died, directory)
  | some content =>
      let moved := (directory.delete source).set target content
      match ending with
      | .returns => (.returned (), moved)
      | .throws message => (.threw ⟨false, message⟩, directory)
      | .dies effective => (.died, if effective then moved else directory)

/-- Remove a file. -/
def unlink (ending : CallEnd) (name : κ) (directory : InsertionMap κ γ) :
    Attempt Unit × InsertionMap κ γ :=
  match ending with
  | .returns => (.returned (), directory.delete name)
  | .throws message => (.threw ⟨false, message⟩, directory)
  | .dies effective => (.died, if effective then directory.delete name else directory)

/-- How the three calls of a replacement end. -/
structure ReplaceEnds (γ : Type v) where
  write : CallEnd
  left : Option γ
  rename : CallEnd
  unlink : CallEnd

/-- Take back what was written under the other name, and throw. -/
def abandon (ending : CallEnd) (temp : κ) (error : FileError) (directory : InsertionMap κ γ) :
    Attempt Unit × InsertionMap κ γ :=
  match unlink ending temp directory with
  | (.died, directory) => (.died, directory)
  | (_, directory) => (.threw error, directory)

/-- Write a file under another name and rename it. -/
def replace (ends : ReplaceEnds γ) (temp target : κ) (content : γ)
    (directory : InsertionMap κ γ) : Attempt Unit × InsertionMap κ γ :=
  match write ends.write ends.left temp content directory with
  | (.died, directory) => (.died, directory)
  | (.threw error, directory) => abandon ends.unlink temp error directory
  | (.returned _, directory) =>
      match rename ends.rename temp target directory with
      | (.threw error, directory) => abandon ends.unlink temp error directory
      | result => result

section Renaming

variable (ending : CallEnd) (source target : κ) (directory : InsertionMap κ γ)

/-- A rename moves the file, or it does nothing and does not return. -/
theorem rename_cases :
    (∃ content, directory.get? source = some content ∧
        (rename ending source target directory).2 =
          (directory.delete source).set target content) ∨
      (rename ending source target directory).2 = directory ∧
        (rename ending source target directory).1.value? = none := by
  unfold rename
  cases stored : directory.get? source with
  | none =>
      right
      cases ending <;> exact ⟨rfl, rfl⟩
  | some content =>
      cases ending with
      | returns => exact .inl ⟨content, rfl, rfl⟩
      | throws message => exact .inr ⟨rfl, rfl⟩
      | dies effective =>
          cases effective with
          | true => exact .inl ⟨content, rfl, rfl⟩
          | false => exact .inr ⟨rfl, rfl⟩

end Renaming

/-- What a replacement leaves behind: other files as they were, the file itself old or
new, new when it returned and old when it threw. -/
structure Replaced (temp target : κ) (content : γ) (before : InsertionMap κ γ)
    (result : Attempt Unit × InsertionMap κ γ) : Prop where
  others : ∀ name, name ≠ temp → name ≠ target → result.2.get? name = before.get? name
  either : result.2.get? target = before.get? target ∨ result.2.get? target = some content
  returned : result.1 = .returned () → result.2.get? target = some content
  threw : ∀ error, result.1 = .threw error → result.2.get? target = before.get? target

section Replacing

variable {temp target : κ} {content : γ} {before directory : InsertionMap κ γ}

/-- What only touches the other name has replaced nothing. -/
theorem replaced_of_same (same : ∀ name, name ≠ temp → directory.get? name = before.get? name)
    (apart : target ≠ temp) {attempt : Attempt Unit} (unreturned : attempt.value? = none) :
    Replaced temp target content before (attempt, directory) where
  others name notTemp _ := same name notTemp
  either := .inl (same target apart)
  returned returned := by
    rw [show attempt = .returned () from returned] at unreturned
    cases unreturned
  threw _ _ := same target apart

theorem get?_abandon (ending : CallEnd) (error : FileError) {name : κ} (notTemp : name ≠ temp) :
    (abandon ending temp error directory).2.get? name = directory.get? name ∧
      (abandon ending temp error directory).1.value? = none := by
  unfold abandon unlink
  cases ending with
  | returns => exact ⟨by simp [notTemp], rfl⟩
  | throws message => exact ⟨rfl, rfl⟩
  | dies effective =>
      refine ⟨?_, rfl⟩
      cases effective with
      | true => simp [notTemp]
      | false => rfl

theorem replaced_abandon (ending : CallEnd) (error : FileError)
    (same : ∀ name, name ≠ temp → directory.get? name = before.get? name)
    (apart : target ≠ temp) :
    Replaced temp target content before (abandon ending temp error directory) :=
  replaced_of_same (fun _ notTemp => (get?_abandon ending error notTemp).1.trans (same _ notTemp))
    apart (get?_abandon ending error apart).2

/-- A file is replaced as a whole, whatever fails and wherever the process dies. -/
theorem replaced_replace (ends : ReplaceEnds γ) (apart : target ≠ temp) (content : γ)
    (before : InsertionMap κ γ) :
    Replaced temp target content before (replace ends temp target content before) := by
  have partly : ∀ name, name ≠ temp →
      (ends.left.elim before (before.set temp ·)).get? name = before.get? name := by
    intro name notTemp
    cases ends.left with
    | none => rfl
    | some left => simp [notTemp]
  have written : ∀ name, name ≠ temp → (before.set temp content).get? name = before.get? name := by
    intro name notTemp
    simp [notTemp]
  unfold replace write
  cases ends.write with
  | dies effective => exact replaced_of_same partly apart rfl
  | throws message => exact replaced_abandon ends.unlink _ partly apart
  | returns =>
      dsimp only
      have moved : Replaced temp target content before
          (.returned (), ((before.set temp content).delete temp).set target content) := by
        refine ⟨?_, .inr (by simp), fun _ => by simp, ?_⟩
        · intro name notTemp notTarget
          simp [notTemp, notTarget]
        · rintro _ ⟨⟩
      unfold rename
      rw [InsertionMap.get?_set_self]
      cases ends.rename with
      | returns => exact moved
      | throws message => exact replaced_abandon ends.unlink _ written apart
      | dies effective =>
          cases effective with
          | false => exact replaced_of_same written apart rfl
          | true =>
              refine ⟨moved.others, moved.either, ?_, ?_⟩
              · rintro ⟨⟩
              · rintro _ ⟨⟩

end Replacing

end Directory

end IndigoMatter.Library
