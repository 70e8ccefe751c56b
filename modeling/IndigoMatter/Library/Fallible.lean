import Mathlib.Tactic.SplitIfs

/-!
# Computations that may throw

An `EStateM` computation keeps the state it had reached when an error is
thrown, and a handler goes on from there.  That is how a program with no
transactions fails: part of its work is done and stays done.

`wp program post onThrow state` says that running `program` from `state`
either returns with `post` or throws with `onThrow`.  Each rule below is an
equivalence for one construct, so a specification can be pushed through a
program by rewriting; loops take an invariant over the elements still to come.
-/

namespace IndigoMatter.Library

universe u v

variable {ε σ τ α β : Type u}

/-- The state a computation ends in, whether it returned or threw. -/
def finalState : EStateM.Result ε σ α → σ
  | .ok _ state => state
  | .error _ state => state

/-- What a computation reports: its value or its error. -/
def outcome : EStateM.Result ε σ α → Except ε α
  | .ok value _ => .ok value
  | .error error _ => .error error

@[simp]
theorem finalState_ok (value : α) (state : σ) :
    finalState (.ok value state : EStateM.Result ε σ α) = state := rfl

@[simp]
theorem finalState_error (error : ε) (state : σ) :
    finalState (.error error state : EStateM.Result ε σ α) = state := rfl

@[simp]
theorem outcome_ok (value : α) (state : σ) :
    outcome (.ok value state : EStateM.Result ε σ α) = .ok value := rfl

@[simp]
theorem outcome_error (error : ε) (state : σ) :
    outcome (.error error state : EStateM.Result ε σ α) = .error error := rfl

/-- Running `program` from `state` returns with `post` or throws with
`onThrow`. -/
def wp (program : EStateM ε σ α) (post : α → σ → Prop) (onThrow : ε → σ → Prop)
    (state : σ) : Prop :=
  match program state with
  | .ok value final => post value final
  | .error error final => onThrow error final

/-- A condition on the final state alone is proved as both postconditions. -/
theorem final_of_wp {program : EStateM ε σ α} {state : σ} (property : σ → Prop)
    (holds : wp program (fun _ => property) (fun _ => property) state) :
    property (finalState (program state)) := by
  unfold wp at holds
  cases result : program state <;> simpa [result] using holds

/-- What holds where a computation throws holds of the error it reports. -/
theorem error_of_wp {program : EStateM ε σ α} {post : α → σ → Prop} {onThrow : ε → σ → Prop}
    {state : σ} (holds : wp program post onThrow state) {error : ε}
    (reported : outcome (program state) = .error error) :
    onThrow error (finalState (program state)) := by
  unfold wp at holds
  cases result : program state with
  | ok value final => simp [result] at reported
  | error thrown final =>
      rw [result] at reported holds
      obtain rfl := Except.error.inj reported
      exact holds

/-- A computation that cannot throw reports a value. -/
theorem ok_of_wp {program : EStateM ε σ α} {post : α → σ → Prop} {state : σ}
    (holds : wp program post (fun _ _ => False) state) :
    ∃ value, outcome (program state) = .ok value ∧ post value (finalState (program state)) := by
  unfold wp at holds
  cases result : program state with
  | ok value final =>
      rw [result] at holds
      exact ⟨value, rfl, holds⟩
  | error error final =>
      rw [result] at holds
      exact holds.elim

theorem wp_mono {program : EStateM ε σ α} {post post' : α → σ → Prop}
    {onThrow onThrow' : ε → σ → Prop} {state : σ}
    (satisfied : wp program post onThrow state)
    (returns : ∀ value final, post value final → post' value final)
    (throws : ∀ error final, onThrow error final → onThrow' error final) :
    wp program post' onThrow' state := by
  unfold wp at satisfied ⊢
  cases result : program state with
  | ok value final =>
      rw [result] at satisfied
      exact returns value final satisfied
  | error error final =>
      rw [result] at satisfied
      exact throws error final satisfied

/-- Two specifications of one computation hold together. -/
theorem wp_and {program : EStateM ε σ α} {post post' : α → σ → Prop}
    {onThrow onThrow' : ε → σ → Prop} {state : σ}
    (first : wp program post onThrow state) (second : wp program post' onThrow' state) :
    wp program (fun value final => post value final ∧ post' value final)
      (fun error final => onThrow error final ∧ onThrow' error final) state := by
  unfold wp at first second ⊢
  cases result : program state <;> simp_all

/-- A chain of checks succeeds when each does, on what the one before it gave. -/
theorem bind_eq_ok_iff {first : Except ε α} {next : α → Except ε β} {result : β} :
    (first >>= next) = .ok result ↔ ∃ value, first = .ok value ∧ next value = .ok result := by
  cases first with
  | error error => simp [bind, Except.bind]
  | ok value => simp [bind, Except.bind]

/-- A computation returns where its outcome says so, and throws elsewhere. -/
theorem wp_outcome (program : EStateM ε σ α) (state : σ) :
    wp program (fun _ _ => (outcome (program state)).isOk = true)
      (fun _ _ => (outcome (program state)).isOk = false) state := by
  unfold wp
  cases program state <;> rfl

@[simp]
theorem wp_pure (value : α) (post : α → σ → Prop) (onThrow : ε → σ → Prop) (state : σ) :
    wp (pure value) post onThrow state ↔ post value state := Iff.rfl

@[simp]
theorem wp_throw (error : ε) (post : α → σ → Prop) (onThrow : ε → σ → Prop) (state : σ) :
    wp (throw error) post onThrow state ↔ onThrow error state := Iff.rfl

@[simp]
theorem wp_get (post : σ → σ → Prop) (onThrow : ε → σ → Prop) (state : σ) :
    wp (get : EStateM ε σ σ) post onThrow state ↔ post state state := Iff.rfl

@[simp]
theorem wp_bind (program : EStateM ε σ α) (next : α → EStateM ε σ β)
    (post : β → σ → Prop) (onThrow : ε → σ → Prop) (state : σ) :
    wp (program >>= next) post onThrow state ↔
      wp program (fun value => wp (next value) post onThrow) onThrow state := by
  simp only [wp, bind, EStateM.bind]
  cases program state <;> rfl

@[simp]
theorem wp_map (f : α → β) (program : EStateM ε σ α)
    (post : β → σ → Prop) (onThrow : ε → σ → Prop) (state : σ) :
    wp (f <$> program) post onThrow state ↔
      wp program (fun value => post (f value)) onThrow state := by
  simp only [wp, Functor.map, EStateM.map]
  cases program state <;> rfl

/-- The handler starts in the state the failing computation had reached. -/
@[simp]
theorem wp_tryCatch (program : EStateM ε σ α) (handler : ε → EStateM ε σ α)
    (post : α → σ → Prop) (onThrow : ε → σ → Prop) (state : σ) :
    wp (tryCatch program handler) post onThrow state ↔
      wp program post (fun error => wp (handler error) post onThrow) state := by
  simp only [wp, tryCatch, tryCatchThe, MonadExceptOf.tryCatch, EStateM.tryCatch]
  cases program state <;> rfl

@[simp]
theorem wp_set (value : σ) (post : PUnit → σ → Prop) (onThrow : ε → σ → Prop) (state : σ) :
    wp (set value : EStateM ε σ PUnit) post onThrow state ↔ post ⟨⟩ value := Iff.rfl

@[simp]
theorem wp_modify (f : σ → σ) (post : PUnit → σ → Prop) (onThrow : ε → σ → Prop)
    (state : σ) :
    wp (modify f : EStateM ε σ PUnit) post onThrow state ↔ post ⟨⟩ (f state) := Iff.rfl

/-- A loop keeps an invariant over the elements it has still to process. -/
theorem wp_forM {α : Type v} {body : α → EStateM ε σ PUnit}
    (invariant : List α → σ → Prop) (onThrow : ε → σ → Prop)
    (preserved : ∀ element rest state, invariant (element :: rest) state →
      wp (body element) (fun _ => invariant rest) onThrow state)
    (elements : List α) (state : σ) (initially : invariant elements state) :
    wp (forM elements body) (fun _ => invariant []) onThrow state := by
  induction elements generalizing state with
  | nil => exact initially
  | cons element rest ih =>
      rw [List.forM_cons, wp_bind]
      exact wp_mono (preserved element rest state initially)
        (fun _ final holds => ih final holds) (fun _ _ thrown => thrown)

/-- The frame rule for loops: when each element only writes the part of the state
under its own key, and the keys differ, a loop establishes what each element
establishes and leaves the rest of the state alone. -/
theorem wp_forM_keyed {α : Type v} {κ ν : Type*} {body : α → EStateM ε σ PUnit}
    (view : σ → κ → ν) (key : α → κ) (pre post : α → ν → Prop) (onThrow : ε → σ → Prop)
    (elements : List α)
    (establishes : ∀ element ∈ elements, ∀ state, pre element (view state (key element)) →
      wp (body element) (fun _ final => post element (view final (key element)) ∧
        ∀ other, other ≠ key element → view final other = view state other) onThrow state)
    (nodup : (elements.map key).Nodup) (state : σ)
    (initially : ∀ element ∈ elements, pre element (view state (key element))) :
    wp (forM elements body)
      (fun _ final => (∀ element ∈ elements, post element (view final (key element))) ∧
        ∀ other, other ∉ elements.map key → view final other = view state other)
      onThrow state := by
  induction elements generalizing state with
  | nil => exact ⟨by simp, fun _ _ => rfl⟩
  | cons element rest ih =>
      rw [List.map_cons, List.nodup_cons] at nodup
      have elsewhere : ∀ other ∈ rest, key other ≠ key element :=
        fun other member same => nodup.1 (same ▸ List.mem_map_of_mem member)
      have head := establishes element List.mem_cons_self state
        (initially element List.mem_cons_self)
      rw [List.forM_cons, wp_bind]
      refine wp_mono head ?_ (fun _ _ thrown => thrown)
      rintro _ middle ⟨established, frame⟩
      have tail := ih (fun other member => establishes other (List.mem_cons_of_mem _ member))
        nodup.2 middle fun other member => by
          rw [frame _ (elsewhere other member)]
          exact initially other (List.mem_cons_of_mem _ member)
      refine wp_mono tail ?_ (fun _ _ thrown => thrown)
      rintro _ final ⟨restEstablished, restFrame⟩
      constructor
      · intro other member
        rcases List.mem_cons.mp member with rfl | member
        · rw [restFrame _ nodup.1]
          exact established
        · exact restEstablished other member
      · intro other absent
        rw [List.map_cons, List.mem_cons, not_or] at absent
        rw [restFrame other absent.2, frame other absent.1]

/-- Run a computation on the first half of a larger state. -/
def onFirst (program : EStateM ε σ α) : EStateM ε (σ × τ) α := fun state =>
  match program state.1 with
  | .ok value final => .ok value (final, state.2)
  | .error error final => .error error (final, state.2)

@[simp]
theorem wp_onFirst (program : EStateM ε σ α) (post : α → σ × τ → Prop)
    (onThrow : ε → σ × τ → Prop) (state : σ × τ) :
    wp (onFirst program) post onThrow state ↔
      wp program (fun value final => post value (final, state.2))
        (fun error final => onThrow error (final, state.2)) state.1 := by
  simp only [wp, onFirst]
  cases program state.1 <;> rfl

theorem onFirst_bind (program : EStateM ε σ α) (next : α → EStateM ε σ β) :
    (onFirst (program >>= next) : EStateM ε (σ × τ) β) =
      onFirst program >>= fun value => onFirst (next value) := by
  funext state
  simp only [onFirst, bind, EStateM.bind]
  cases program state.1 <;> rfl

theorem onFirst_forM {α : Type v} (elements : List α) (body : α → EStateM ε σ PUnit) :
    (onFirst (forM elements body) : EStateM ε (σ × τ) PUnit) =
      forM elements fun element => onFirst (body element) := by
  induction elements with
  | nil => rfl
  | cons element rest ih => simp only [List.forM_cons, onFirst_bind, ih]

/-- Run a computation that also keeps a local variable, from its initial value. -/
def withLocal (initial : τ) (program : EStateM ε (σ × τ) α) : EStateM ε σ α := fun state =>
  match program (state, initial) with
  | .ok value final => .ok value final.1
  | .error error final => .error error final.1

@[simp]
theorem wp_withLocal (initial : τ) (program : EStateM ε (σ × τ) α) (post : α → σ → Prop)
    (onThrow : ε → σ → Prop) (state : σ) :
    wp (withLocal initial program) post onThrow state ↔
      wp program (fun value final => post value final.1)
        (fun error final => onThrow error final.1) (state, initial) := by
  simp only [wp, withLocal]
  cases program (state, initial) <;> rfl

end IndigoMatter.Library
