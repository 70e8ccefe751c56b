import IndigoMatter.Library.PyJson
import IndigoMatter.Library.Transition
import Mathlib.Data.Finset.Sort
import Mathlib.Data.String.Basic

/-!
# Tombstones of deleted node devices

`NodeDeviceTombstones` keeps the ids of the nodes whose device was deleted on purpose,
in memory and as a stored document.  A call changes the set under a lock, takes the
document of the set under the lock again, and saves it after the lock is released.

Calls of several threads interleave between these three steps, so a document that was
taken earlier can be saved later: then what is stored is an older set, and a restart
brings it back.
-/

namespace IndigoMatter.Plugin

open IndigoMatter.Library

namespace Tombstones

/-! ## The stored form -/

section Stored

variable (str : PyJson → String)

/-- `load`: the set a stored value holds; what cannot be read, or is no list, holds none.
`str` is the text of a value. -/
def load : Option PyJson → Finset String
  | some (.list items) => (items.map str).toFinset
  | _ => ∅

end Stored

/-- `to_json`. -/
def toJson (tombstoned : Finset String) : PyJson :=
  .list ((tombstoned.sort (· ≤ ·)).map .str)

theorem load_toJson {str : PyJson → String} (reads : ∀ text, str (.str text) = text)
    (tombstoned : Finset String) : load str (some (toJson tombstoned)) = tombstoned := by
  have texts : (str ∘ PyJson.str) = id := funext reads
  rw [toJson, load, List.map_map, texts, List.map_id, Finset.sort_toFinset]

/-! ## Calls and their steps -/

/-- `str(int(node_id))`. -/
def nodeKey (nodeId : Int) : String := toString nodeId

inductive Call
  | add (nodeId : Int)
  | forget (nodeId : Int)
  | clearAll

/-- What a call leaves of the set under the lock, and whether it goes on to save. -/
def Call.change (tombstoned : Finset String) : Call → Finset String × Bool
  | add nodeId => (insert (nodeKey nodeId) tombstoned, true)
  | forget nodeId =>
      (tombstoned.erase (nodeKey nodeId), decide (nodeKey nodeId ∈ tombstoned))
  | clearAll => (∅, decide (tombstoned.card ≠ 0))

/-- A call that does not save has changed nothing. -/
theorem Call.change_of_unsaved {call : Call} {tombstoned : Finset String}
    (unsaved : (call.change tombstoned).2 = false) : (call.change tombstoned).1 = tombstoned := by
  cases call with
  | add nodeId => cases unsaved
  | forget nodeId => exact Finset.erase_eq_of_notMem (of_decide_eq_false unsaved)
  | clearAll =>
      have none := of_decide_eq_false unsaved
      exact (Finset.card_eq_zero.mp (not_not.mp none)).symm

/-- How far a call has come that has changed the set: its document is still to be taken,
or it has been taken, as the number it has among those taken so far. -/
inductive Stage
  | changed
  | serialised (number : Nat) (document : PyJson)

/-- The set, the stored document and the calls of each thread.  `taken` counts the
documents taken, and `landed` is the greatest number of those saved. -/
structure State where
  tombstoned : Finset String
  stored : Option PyJson
  calls : Nat → Option Stage
  taken : Nat
  landed : Nat

/-- The plugin starts from what is stored. -/
def start (str : PyJson → String) (stored : Option PyJson) : State :=
  ⟨load str stored, stored, fun _ => none, 0, 0⟩

inductive Event
  | enter (thread : Nat) (call : Call)
  | serialise (thread : Nat)
  | save (thread : Nat)

/-- One step of one thread; every save succeeds. -/
def step (state : State) : Event → Option State
  | .enter thread call =>
      match state.calls thread with
      | none => some { state with
          tombstoned := (call.change state.tombstoned).1
          calls := Function.update state.calls thread
            (if (call.change state.tombstoned).2 then some .changed else none) }
      | some _ => none
  | .serialise thread =>
      match state.calls thread with
      | some .changed => some { state with
          calls := Function.update state.calls thread
            (some (.serialised (state.taken + 1) (toJson state.tombstoned)))
          taken := state.taken + 1 }
      | _ => none
  | .save thread =>
      match state.calls thread with
      | some (.serialised number document) => some { state with
          stored := some document
          calls := Function.update state.calls thread none
          landed := max state.landed number }
      | _ => none

/-- Every call has returned. -/
def Idle (state : State) : Prop := ∀ thread, state.calls thread = none

/-- What is stored is the set in memory, once every call has returned. -/
def Settles (str : PyJson → String) (state : State) : Prop :=
  Idle state → load str state.stored = state.tombstoned

/-- No document is saved after one that was taken later, unless it holds the same set. -/
def InOrder (str : PyJson → String) (state : State) : Event → Prop
  | .save thread => ∀ number document, state.calls thread = some (.serialised number document) →
      state.landed < number ∨ load str (some document) = load str state.stored
  | _ => True

/-! ## Saves in order -/

/-- The latest document holds the set, unless some call has still to take its own: it is
on its way, or it is what is stored. -/
structure Tracked (str : PyJson → String) (state : State) : Prop where
  numbered : ∀ thread number document, state.calls thread = some (.serialised number document) →
    number ≤ state.taken
  bounded : state.landed ≤ state.taken
  latest : (∃ thread, state.calls thread = some .changed) ∨
    (∃ thread document, state.calls thread = some (.serialised state.taken document) ∧
      load str (some document) = state.tombstoned) ∨
    (state.landed = state.taken ∧ load str state.stored = state.tombstoned)

variable {str : PyJson → String} {state next : State}

theorem tracked_start (stored : Option PyJson) : Tracked str (start str stored) where
  numbered := by
    intro thread number document waits
    cases waits
  bounded := le_refl _
  latest := .inr (.inr ⟨rfl, rfl⟩)

theorem Tracked.settles (tracked : Tracked str state) : Settles str state := by
  intro idle
  rcases tracked.latest with ⟨thread, waits⟩ | ⟨thread, document, waits, _⟩ | ⟨_, same⟩
  · rw [idle thread] at waits
    cases waits
  · rw [idle thread] at waits
    cases waits
  · exact same

theorem Tracked.enter (tracked : Tracked str state) {thread : Nat} {call : Call}
    (taken : step state (.enter thread call) = some next) : Tracked str next := by
  rw [step] at taken
  split at taken
  · rename_i free
    obtain rfl := Option.some.inj taken
    constructor
    · intro other number document waits
      by_cases own : other = thread
      · subst own
        dsimp only at waits
        rw [Function.update_self] at waits
        split at waits
        · cases waits
        · cases waits
      · exact tracked.numbered other number document
          ((Function.update_of_ne own _ _).symm.trans waits)
    · exact tracked.bounded
    · cases saves : (call.change state.tombstoned).2 with
      | true =>
          refine .inl ⟨thread, ?_⟩
          dsimp only
          rw [Function.update_self, if_pos rfl]
      | false =>
          have kept : Function.update state.calls thread none = state.calls := by
            rw [← free, Function.update_eq_self]
          simp only [Bool.false_eq_true, if_false, kept, Call.change_of_unsaved saves]
          exact tracked.latest
  · cases taken

theorem Tracked.serialise (tracked : Tracked str state)
    (reads : ∀ text, str (.str text) = text) {thread : Nat}
    (taken : step state (.serialise thread) = some next) : Tracked str next := by
  rw [step] at taken
  split at taken
  · obtain rfl := Option.some.inj taken
    constructor
    · intro other number document waits
      by_cases own : other = thread
      · subst own
        dsimp only at waits
        rw [Function.update_self] at waits
        cases waits
        exact le_refl _
      · exact Nat.le_succ_of_le (tracked.numbered other number document
          ((Function.update_of_ne own _ _).symm.trans waits))
    · exact Nat.le_succ_of_le tracked.bounded
    · exact .inr (.inl ⟨thread, _, Function.update_self _ _ _, load_toJson reads _⟩)
  · cases taken

theorem Tracked.save (tracked : Tracked str state) {thread : Nat}
    (inOrder : InOrder str state (.save thread))
    (taken : step state (.save thread) = some next) : Tracked str next := by
  rw [step] at taken
  split at taken
  · rename_i number document own
    obtain rfl := Option.some.inj taken
    have numbered := tracked.numbered thread number document own
    have bounded := tracked.bounded
    have others : ∀ other stage, other ≠ thread → state.calls other = some stage →
        Function.update state.calls thread none other = some stage := by
      intro other stage differs waits
      rw [Function.update_of_ne differs, waits]
    constructor
    · intro other earlier saved waits
      by_cases same : other = thread
      · subst same
        dsimp only at waits
        rw [Function.update_self] at waits
        cases waits
      · exact tracked.numbered other earlier saved
          ((Function.update_of_ne same _ _).symm.trans waits)
    · exact max_le bounded numbered
    · rcases tracked.latest with ⟨other, waits⟩ | ⟨other, last, waits, holds⟩ | ⟨landed, holds⟩
      · have differs : other ≠ thread := by
          rintro rfl
          cases own.symm.trans waits
        exact .inl ⟨other, others other _ differs waits⟩
      · by_cases same : other = thread
        · subst same
          cases own.symm.trans waits
          exact .inr (.inr ⟨max_eq_right bounded, holds⟩)
        · exact .inr (.inl ⟨other, last, others other _ same waits, holds⟩)
      · right
        right
        rcases inOrder number document own with later | same
        · omega
        · refine ⟨?_, same.trans holds⟩
          dsimp only
          omega
  · cases taken

/-- Where saves land in order, nothing that was changed is lost. -/
theorem settles_of_saves_in_order (reads : ∀ text, str (.str text) = text)
    {stored : Option PyJson} {events : List Event} {final : State}
    (run : RunWhere step (InOrder str) (start str stored) events final) : Settles str final := by
  have tracked : Tracked str final := by
    induction run with
    | nil => exact tracked_start stored
    | @snoc _ middle _ event _ inOrder taken tracked =>
        cases event with
        | enter thread call => exact tracked.enter taken
        | serialise thread => exact tracked.serialise reads taken
        | save thread => exact tracked.save inOrder taken
  exact tracked.settles

/-- The text of a text, and nothing of other values. -/
def textOnly : PyJson → String
  | .str text => text
  | _ => ""

/-- Two deletions on two threads whose documents are saved in the order they were
taken. -/
def savedInOrder : List Event :=
  [.enter 0 (.add 1), .serialise 0, .enter 1 (.add 2), .serialise 1, .save 0, .save 1]

theorem settles_of_saves_in_order_twoDeletions :
    ∃ final, RunWhere step (InOrder textOnly) (start textOnly none) savedInOrder final ∧
      Settles textOnly final := by
  have run : ∃ final,
      RunWhere step (InOrder textOnly) (start textOnly none) savedInOrder final := by
    refine ⟨_, .snoc (.snoc (.snoc (.snoc (.snoc (.snoc .nil trivial rfl) trivial rfl)
      trivial rfl) trivial rfl) ?_ rfl) ?_ rfl⟩
    · intro number document waits
      cases (waits : some (Stage.serialised 1 _) = _)
      exact .inl Nat.zero_lt_one
    · intro number document waits
      cases (waits : some (Stage.serialised 2 _) = _)
      exact .inl Nat.one_lt_two
  obtain ⟨final, reached⟩ := run
  exact ⟨final, reached, settles_of_saves_in_order (fun _ => rfl) reached⟩

/-- The same deletions with the first document saved last: the second is forgotten. -/
theorem lost_deletion :
    ¬∀ (str : PyJson → String) (stored : Option PyJson) (events : List Event) (final : State),
      (∀ text, str (.str text) = text) → Run step (start str stored) events final →
        Settles str final := by
  intro settles
  have run : ∃ final, Run step (start textOnly none)
      [.enter 0 (.add 1), .serialise 0, .enter 1 (.add 2), .serialise 1, .save 1, .save 0]
        final ∧ Idle final ∧ final.stored = some (toJson {nodeKey 1}) ∧
          final.tombstoned = {nodeKey 2, nodeKey 1} := by
    refine ⟨_, .snoc (.snoc (.snoc (.snoc (.snoc (.snoc .nil trivial rfl) trivial rfl)
      trivial rfl) trivial rfl) trivial rfl) trivial rfl, ?_, rfl, rfl⟩
    intro thread
    by_cases first : thread = 0
    · subst first
      rfl
    · by_cases second : thread = 1
      · subst second
        rfl
      · simp [Function.update_of_ne, first, second, start]
  obtain ⟨final, reached, idle, stored, tombstoned⟩ := run
  have same := settles textOnly none _ final (fun _ => rfl) reached idle
  rw [stored, load_toJson fun _ => rfl, tombstoned] at same
  revert same
  decide

end Tombstones

end IndigoMatter.Plugin
