import Mathlib.Init

/-!
# Runs of a labelled transition system

A system is a partial step function: an event either takes a state to the next
one or is not enabled there.  `RunWhere` are the finite runs whose every event
meets a condition in the state it fires in; with the condition `True` they are
all the runs.  A prefix of a run is a run, so a property of the last state of
every run is a property of every state reached.
-/

namespace IndigoMatter.Library

universe u v

variable {σ : Type u} {α : Type v}

/-- A deterministic labelled step; `none` means the event is not enabled. -/
abbrev LabelledStep (σ : Type u) (α : Type v) := σ → α → Option σ

/-- Runs from `start` in which every event meets `allowed` where it fires. -/
inductive RunWhere (step : LabelledStep σ α) (allowed : σ → α → Prop) (start : σ) :
    List α → σ → Prop
  | nil : RunWhere step allowed start [] start
  | snoc {events : List α} {middle final : σ} {event : α}
      (before : RunWhere step allowed start events middle)
      (meets : allowed middle event)
      (last : step middle event = some final) :
      RunWhere step allowed start (events ++ [event]) final

/-- The runs with no condition on their events. -/
abbrev Run (step : LabelledStep σ α) (start : σ) (events : List α) (final : σ) : Prop :=
  RunWhere step (fun _ _ => True) start events final

namespace RunWhere

variable {step : LabelledStep σ α} {allowed allowed' : σ → α → Prop} {start : σ}

/-- What holds at the start and is kept by every allowed step holds of every
state reached. -/
theorem invariant {property : σ → Prop}
    (initially : property start)
    (preserved : ∀ state event next, property state → allowed state event →
      step state event = some next → property next)
    {events : List α} {final : σ} (run : RunWhere step allowed start events final) :
    property final := by
  induction run with
  | nil => exact initially
  | snoc _ meets last holds => exact preserved _ _ _ holds meets last

theorem weaken (weaker : ∀ state event, allowed state event → allowed' state event)
    {events : List α} {final : σ} (run : RunWhere step allowed start events final) :
    RunWhere step allowed' start events final := by
  induction run with
  | nil => exact .nil
  | snoc _ meets last before => exact .snoc before (weaker _ _ meets) last

/-- A run meets another condition where an invariant of the run implies it. -/
theorem weaken_of_invariant {property : σ → Prop} (initially : property start)
    (preserved : ∀ state event next, property state → allowed state event →
      step state event = some next → property next)
    (weaker : ∀ state event next, property state → allowed state event →
      step state event = some next → allowed' state event)
    {events : List α} {final : σ} (run : RunWhere step allowed start events final) :
    RunWhere step allowed' start events final := by
  induction run with
  | nil => exact .nil
  | snoc earlier meets last before =>
      have holds := earlier.invariant initially preserved
      exact .snoc before (weaker _ _ _ holds meets last) last

/-- Every event of a run fires in a state that the events before it reach. -/
theorem at_event {events earlier later : List α} {event : α} {final : σ}
    (run : RunWhere step allowed start events final) (same : events = earlier ++ event :: later) :
    ∃ before after, RunWhere step allowed start earlier before ∧ allowed before event ∧
      step before event = some after := by
  induction run generalizing later with
  | nil => simp at same
  | @snoc shorter middle final last before meets taken ih =>
      rcases List.eq_nil_or_concat later with rfl | ⟨rest, other, rfl⟩
      · rcases List.append_inj' same rfl with ⟨rfl, single⟩
        cases single
        exact ⟨middle, final, before, meets, taken⟩
      · rw [List.concat_eq_append, ← List.cons_append, ← List.append_assoc] at same
        exact ih (List.append_inj' same rfl).1

end RunWhere

/-- Execute a list of events, stopping at the first that is not enabled or
does not meet the condition. -/
def follow (step : LabelledStep σ α) (allowed : σ → α → Prop)
    [∀ state event, Decidable (allowed state event)] : σ → List α → Option σ
  | state, [] => some state
  | state, event :: rest =>
      if allowed state event then
        (step state event).bind fun next => follow step allowed next rest
      else none

private theorem runWhere_append_follow {step : LabelledStep σ α} {allowed : σ → α → Prop}
    [∀ state event, Decidable (allowed state event)] {start middle final : σ}
    {before events : List α} (run : RunWhere step allowed start before middle)
    (followed : follow step allowed middle events = some final) :
    RunWhere step allowed start (before ++ events) final := by
  induction events generalizing before middle with
  | nil =>
      obtain rfl : middle = final := Option.some.inj followed
      simpa using run
  | cons event rest ih =>
      rw [follow] at followed
      split at followed
      · rename_i meets
        obtain ⟨next, taken, remaining⟩ := Option.bind_eq_some_iff.mp followed
        simpa using ih (run.snoc meets taken) remaining
      · contradiction

/-- A list of events that executes is a run. -/
theorem runWhere_of_follow {step : LabelledStep σ α} {allowed : σ → α → Prop}
    [∀ state event, Decidable (allowed state event)] {start final : σ} {events : List α}
    (followed : follow step allowed start events = some final) :
    RunWhere step allowed start events final :=
  runWhere_append_follow .nil followed

/-- The run to the state such a list reaches. -/
theorem runWhere_follow_getD {step : LabelledStep σ α} {allowed : σ → α → Prop}
    [∀ state event, Decidable (allowed state event)] {start : σ} {events : List α}
    (followed : (follow step allowed start events).isSome = true) (other : σ) :
    RunWhere step allowed start events ((follow step allowed start events).getD other) := by
  obtain ⟨final, found⟩ := Option.isSome_iff_exists.mp followed
  rw [found]
  exact runWhere_of_follow found

end IndigoMatter.Library
