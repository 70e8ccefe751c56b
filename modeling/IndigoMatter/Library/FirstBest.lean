import Mathlib.Data.List.MinMax

/-!
# The first of the best

A scan that keeps the first of the greatest, or of the least, by an integer key.  The
order of the integers is given by name, so that the scans run.
-/

namespace IndigoMatter.Library

variable {α : Type}

/-- The first of the greatest. -/
def maxBy (key : α → Int) (items : List α) : Option α :=
  @List.argmax α Int Int.instLinearOrder.toPreorder (fun first second => Int.decLt first second)
    key items

/-- The first of the least. -/
def minBy (key : α → Int) (items : List α) : Option α :=
  @List.argmin α Int Int.instLinearOrder.toPreorder (fun first second => Int.decLt first second)
    key items

variable {key : α → Int} {items : List α} {best : α}

theorem maxBy_mem (found : maxBy key items = some best) : best ∈ items :=
  List.argmax_mem found

theorem le_of_maxBy (found : maxBy key items = some best) {item : α} (member : item ∈ items) :
    key item ≤ key best :=
  List.le_of_mem_argmax member found

theorem maxBy_eq_none_iff : maxBy key items = none ↔ items = [] :=
  List.argmax_eq_none

theorem minBy_mem (found : minBy key items = some best) : best ∈ items :=
  List.argmin_mem found

theorem le_of_minBy (found : minBy key items = some best) {item : α} (member : item ∈ items) :
    key best ≤ key item :=
  List.le_of_mem_argmin member found

theorem minBy_eq_none_iff : minBy key items = none ↔ items = [] :=
  List.argmin_eq_none

@[simp] theorem maxBy_nil : maxBy key [] = none := rfl

@[simp] theorem minBy_nil : minBy key [] = none := rfl

/-- The first item is found when none is greater. -/
theorem maxBy_cons_of_le {first : α} {rest : List α}
    (greatest : ∀ other ∈ rest, key other ≤ key first) :
    maxBy key (first :: rest) = some first := by
  classical
  refine List.argmax_eq_some_iff.mpr ⟨List.mem_cons_self, fun other member => ?_,
    fun other _ _ => ?_⟩
  · rcases List.mem_cons.mp member with rfl | later
    · exact le_refl _
    · exact greatest other later
  · rw [List.idxOf_cons_self]
    exact Nat.zero_le _

/-- The first item is found when none is less. -/
theorem minBy_cons_of_le {first : α} {rest : List α}
    (least : ∀ other ∈ rest, key first ≤ key other) :
    minBy key (first :: rest) = some first := by
  classical
  refine List.argmin_eq_some_iff.mpr ⟨List.mem_cons_self, fun other member => ?_,
    fun other _ _ => ?_⟩
  · rcases List.mem_cons.mp member with rfl | later
    · exact le_refl _
    · exact least other later
  · rw [List.idxOf_cons_self]
    exact Nat.zero_le _

end IndigoMatter.Library
