import Mathlib.Data.List.Perm.Basic
import Mathlib.Data.List.Nodup
import Mathlib.Data.List.Lookmap

/-!
# Insertion-ordered maps

A finite map that remembers the order in which its keys arrived.  Writing to a
present key replaces the value where it stands; writing to an absent key puts
the new entry at the end.  Key uniqueness is a field of the structure, so no
later proof has to carry it.

Lookup describes one key at a time; the permutation lemmas describe the whole
list of entries, and are what a counting or ownership argument rests on.
-/

namespace IndigoMatter.Library

universe u v w

/-- A part of a list whose images are what they were is distinct with it. -/
theorem filterMap_map_sublist {α : Type u} {β : Type v} {γ : Type w} {f : α → Option β}
    {g : β → γ} {h : α → γ} {items : List α}
    (same : ∀ item ∈ items, ∀ image, f item = some image → g image = h item) :
    ((items.filterMap f).map g).Sublist (items.map h) := by
  induction items with
  | nil => exact .slnil
  | cons item rest ih =>
      have later := ih fun other mem => same other (List.mem_cons_of_mem item mem)
      cases kept : f item with
      | none => simpa [kept] using later.cons (h item)
      | some image => simpa [kept, same item List.mem_cons_self image kept] using later

/-- A map whose entries are listed in insertion order. -/
structure InsertionMap (κ : Type u) (ν : Type v) where
  entries : List (κ × ν)
  nodupKeys : (entries.map Prod.fst).Nodup
deriving DecidableEq

namespace InsertionMap

variable {κ : Type u} {ν : Type v} {ω : Type w}

/-- The map with no entry. -/
def empty : InsertionMap κ ν := ⟨[], List.nodup_nil⟩

instance : EmptyCollection (InsertionMap κ ν) := ⟨empty⟩

instance : Inhabited (InsertionMap κ ν) := ⟨empty⟩

/-- The keys, oldest first. -/
def keys (map : InsertionMap κ ν) : List κ := map.entries.map Prod.fst

/-- The values, in the order of their keys. -/
def values (map : InsertionMap κ ν) : List ν := map.entries.map Prod.snd

/-- The number of entries. -/
def size (map : InsertionMap κ ν) : Nat := map.entries.length

/-- Apply a function to every value, leaving keys and order as they are. -/
def mapValues (f : κ → ν → ω) (map : InsertionMap κ ν) : InsertionMap κ ω where
  entries := map.entries.map fun entry => (entry.1, f entry.1 entry.2)
  nodupKeys := by
    simpa [List.map_map, Function.comp_def] using map.nodupKeys

theorem keys_nodup (map : InsertionMap κ ν) : map.keys.Nodup := map.nodupKeys

@[ext]
theorem ext {first second : InsertionMap κ ν} (entries_eq : first.entries = second.entries) :
    first = second := by
  cases first
  cases second
  simp_all

@[simp]
theorem keys_empty : (∅ : InsertionMap κ ν).keys = [] := rfl

@[simp]
theorem values_empty : (∅ : InsertionMap κ ν).values = [] := rfl

@[simp]
theorem entries_empty : (∅ : InsertionMap κ ν).entries = [] := rfl

@[simp]
theorem size_empty : (∅ : InsertionMap κ ν).size = 0 := rfl

@[simp]
theorem keys_mapValues (f : κ → ν → ω) (map : InsertionMap κ ν) :
    (map.mapValues f).keys = map.keys := by
  simp [keys, mapValues, List.map_map, Function.comp_def]

theorem mem_keys_of_mem_entries {map : InsertionMap κ ν} {key : κ} {value : ν}
    (member : (key, value) ∈ map.entries) : key ∈ map.keys :=
  List.mem_map_of_mem (f := Prod.fst) member

variable [DecidableEq κ]

/-- The value stored under a key. -/
def get? (map : InsertionMap κ ν) (key : κ) : Option ν := map.entries.lookup key

/-- Whether a key is present. -/
def has (map : InsertionMap κ ν) (key : κ) : Bool := (map.get? key).isSome

/-- Replace the entry of `key` in place, or append a new one. -/
def setEntries (key : κ) (value : ν) : List (κ × ν) → List (κ × ν)
  | [] => [(key, value)]
  | entry :: rest =>
      if entry.1 = key then (key, value) :: rest
      else entry :: setEntries key value rest

theorem mem_keys_setEntries (key : κ) (value : ν) (entries : List (κ × ν)) (other : κ) :
    other ∈ (setEntries key value entries).map Prod.fst ↔
      other = key ∨ other ∈ entries.map Prod.fst := by
  induction entries with
  | nil => simp [setEntries]
  | cons entry rest ih =>
      by_cases present : entry.1 = key
      · simp only [setEntries, if_pos present, List.map_cons, List.mem_cons]
        rw [present]
        tauto
      · simp only [setEntries, if_neg present, List.map_cons, List.mem_cons, ih]
        tauto

theorem nodup_setEntries (key : κ) (value : ν) (entries : List (κ × ν))
    (nodup : (entries.map Prod.fst).Nodup) :
    ((setEntries key value entries).map Prod.fst).Nodup := by
  induction entries with
  | nil => simp [setEntries]
  | cons entry rest ih =>
      rw [List.map_cons, List.nodup_cons] at nodup
      by_cases present : entry.1 = key
      · simp only [setEntries, if_pos present, List.map_cons, List.nodup_cons]
        exact ⟨present ▸ nodup.1, nodup.2⟩
      · simp only [setEntries, if_neg present, List.map_cons, List.nodup_cons,
          mem_keys_setEntries, not_or]
        exact ⟨⟨present, nodup.1⟩, ih nodup.2⟩

/-- Store a value: in place when the key is present, at the end otherwise. -/
def set (map : InsertionMap κ ν) (key : κ) (value : ν) : InsertionMap κ ν where
  entries := setEntries key value map.entries
  nodupKeys := nodup_setEntries key value map.entries map.nodupKeys

/-- Remove a key; the others keep their order. -/
def delete (map : InsertionMap κ ν) (key : κ) : InsertionMap κ ν where
  entries := map.entries.filter fun entry => entry.1 ≠ key
  nodupKeys := map.nodupKeys.sublist (List.filter_sublist.map Prod.fst)

/-- Keep the entries whose key is selected. -/
def filterKeys (selected : κ → Bool) (map : InsertionMap κ ν) : InsertionMap κ ν where
  entries := map.entries.filter fun entry => selected entry.1
  nodupKeys := map.nodupKeys.sublist (List.filter_sublist.map Prod.fst)

/-- Build a map by storing the listed entries from left to right. -/
def ofList (entries : List (κ × ν)) : InsertionMap κ ν :=
  entries.foldl (fun map entry => map.set entry.1 entry.2) ∅

/-- Storing under a key leaves the entries alone that a predicate on keys selects
without it. -/
theorem filter_entries_set {selected : κ → Bool} {map : InsertionMap κ ν} {key : κ} {value : ν}
    (outside : selected key = false) :
    (map.set key value).entries.filter (fun entry => selected entry.1) =
      map.entries.filter fun entry => selected entry.1 := by
  have filtered (entries : List (κ × ν)) :
      (setEntries key value entries).filter (fun entry => selected entry.1) =
        entries.filter fun entry => selected entry.1 := by
    induction entries with
    | nil => simp [setEntries, outside]
    | cons entry rest ih =>
        by_cases present : entry.1 = key
        · have skipped : selected entry.1 = false := present ▸ outside
          simp [setEntries, present, outside]
        · simp only [setEntries, if_neg present, List.filter_cons, ih]
  exact filtered map.entries

/-! ## Lookup -/

@[simp]
theorem get?_empty (key : κ) : (∅ : InsertionMap κ ν).get? key = none := rfl

private theorem lookup_cons_ite (head : κ) (headValue : ν) (rest : List (κ × ν)) (key : κ) :
    ((head, headValue) :: rest).lookup key =
      if key = head then some headValue else rest.lookup key := by
  by_cases equal : key = head
  · simp [equal]
  · rw [List.lookup_cons, beq_false_of_ne equal, if_neg equal]

private theorem lookup_setEntries (key : κ) (value : ν) (entries : List (κ × ν)) (other : κ) :
    (setEntries key value entries).lookup other =
      if other = key then some value else entries.lookup other := by
  induction entries with
  | nil => simp [setEntries, lookup_cons_ite]
  | cons entry rest ih =>
      rcases entry with ⟨head, headValue⟩
      by_cases present : head = key
      · subst head
        by_cases equal : other = key <;> simp [setEntries, lookup_cons_ite, equal]
      · simp only [setEntries, present, if_false, lookup_cons_ite, ih]
        by_cases equal : other = head
        · subst other
          simp [present]
        · simp [equal]

@[simp]
theorem get?_set (map : InsertionMap κ ν) (key : κ) (value : ν) (other : κ) :
    (map.set key value).get? other =
      if other = key then some value else map.get? other :=
  lookup_setEntries key value map.entries other

theorem get?_set_self (map : InsertionMap κ ν) (key : κ) (value : ν) :
    (map.set key value).get? key = some value := by
  simp

@[simp]
theorem get?_delete (map : InsertionMap κ ν) (key other : κ) :
    (map.delete key).get? other = if other = key then none else map.get? other := by
  rcases map with ⟨entries, nodup⟩
  simp only [get?, delete]
  clear nodup
  induction entries with
  | nil => simp
  | cons entry rest ih =>
      rcases entry with ⟨head, headValue⟩
      by_cases present : head = key
      · subst head
        by_cases equal : other = key
        · simpa [equal] using ih
        · simpa [equal, lookup_cons_ite] using ih
      · by_cases equal : other = head
        · subst other
          simp [present]
        · simpa [present, equal, lookup_cons_ite] using ih

@[simp]
theorem get?_filterKeys (selected : κ → Bool) (map : InsertionMap κ ν) (key : κ) :
    (map.filterKeys selected).get? key = if selected key then map.get? key else none := by
  rcases map with ⟨entries, nodup⟩
  simp only [get?, filterKeys]
  clear nodup
  induction entries with
  | nil => simp
  | cons entry rest ih =>
      rcases entry with ⟨head, headValue⟩
      by_cases kept : selected head = true
      · by_cases equal : key = head
        · subst head
          simp [kept]
        · simpa [kept, lookup_cons_ite, equal] using ih
      · by_cases equal : key = head
        · subst head
          simpa [kept] using ih
        · simpa [kept, lookup_cons_ite, equal] using ih

theorem mem_entries_iff {map : InsertionMap κ ν} {key : κ} {value : ν} :
    (key, value) ∈ map.entries ↔ map.get? key = some value := by
  rcases map with ⟨entries, nodup⟩
  simp only [get?]
  induction entries with
  | nil => simp
  | cons entry rest ih =>
      rcases entry with ⟨head, headValue⟩
      rw [List.map_cons, List.nodup_cons] at nodup
      by_cases equal : key = head
      · subst key
        have absent : (head, value) ∉ rest := fun member =>
          nodup.1 (List.mem_map.mpr ⟨_, member, rfl⟩)
        simp [absent, eq_comm]
      · simp [equal, lookup_cons_ite, ih nodup.2]

/-- Selecting every key keeps the map. -/
theorem filterKeys_eq_self {selected : κ → Bool} {map : InsertionMap κ ν}
    (all : ∀ key value, map.get? key = some value → selected key = true) :
    map.filterKeys selected = map := by
  apply ext
  apply List.filter_eq_self.mpr
  rintro ⟨key, value⟩ listed
  exact all key value (mem_entries_iff.mp listed)

theorem mem_keys_iff {map : InsertionMap κ ν} {key : κ} :
    key ∈ map.keys ↔ ∃ value, map.get? key = some value := by
  simp only [keys, List.mem_map, Prod.exists, mem_entries_iff]
  constructor
  · rintro ⟨other, value, stored, rfl⟩
    exact ⟨value, stored⟩
  · rintro ⟨value, stored⟩
    exact ⟨key, value, stored, rfl⟩

theorem mem_values_iff {map : InsertionMap κ ν} {value : ν} :
    value ∈ map.values ↔ ∃ key, map.get? key = some value := by
  simp [values, mem_entries_iff]

theorem get?_eq_none_iff {map : InsertionMap κ ν} {key : κ} :
    map.get? key = none ↔ key ∉ map.keys := by
  rw [mem_keys_iff, Option.eq_none_iff_forall_ne_some]
  simp

@[simp]
theorem has_iff {map : InsertionMap κ ν} {key : κ} :
    map.has key = true ↔ key ∈ map.keys := by
  rw [mem_keys_iff, has, Option.isSome_iff_exists]

@[simp]
theorem mem_keys_set {map : InsertionMap κ ν} {key other : κ} {value : ν} :
    other ∈ (map.set key value).keys ↔ other = key ∨ other ∈ map.keys :=
  mem_keys_setEntries key value map.entries other

@[simp]
theorem mem_keys_delete {map : InsertionMap κ ν} {key other : κ} :
    other ∈ (map.delete key).keys ↔ other ≠ key ∧ other ∈ map.keys := by
  simp only [mem_keys_iff, get?_delete]
  by_cases equal : other = key <;> simp [equal]

theorem delete_of_notMem {map : InsertionMap κ ν} {key : κ} (absent : key ∉ map.keys) :
    map.delete key = map := by
  apply ext
  refine List.filter_eq_self.mpr fun entry member => ?_
  have present : entry.1 ∈ map.keys := mem_keys_of_mem_entries member
  simp only [decide_eq_true_eq]
  rintro rfl
  exact absent present

@[simp]
theorem get?_mapValues (f : κ → ν → ω) (map : InsertionMap κ ν) (key : κ) :
    (map.mapValues f).get? key = (map.get? key).map (f key) := by
  rcases map with ⟨entries, nodup⟩
  simp only [get?, mapValues]
  clear nodup
  induction entries with
  | nil => simp
  | cons entry rest ih =>
      rcases entry with ⟨head, headValue⟩
      by_cases equal : key = head
      · subst key
        simp
      · simpa [lookup_cons_ite, equal] using ih

/-! ## Repeated updates -/

/-- The second of two writes to one key decides. -/
@[simp]
theorem set_set (map : InsertionMap κ ν) (key : κ) (first second : ν) :
    (map.set key first).set key second = map.set key second := by
  apply ext
  change setEntries key second (setEntries key first map.entries) =
    setEntries key second map.entries
  induction map.entries with
  | nil => simp [setEntries]
  | cons entry rest ih =>
      by_cases present : entry.1 = key
      · simp [setEntries, present]
      · simp [setEntries, present, ih]

@[simp]
theorem delete_set (map : InsertionMap κ ν) (key : κ) (value : ν) :
    (map.set key value).delete key = map.delete key := by
  apply ext
  change (setEntries key value map.entries).filter (fun entry => entry.1 ≠ key) =
    map.entries.filter fun entry => entry.1 ≠ key
  induction map.entries with
  | nil => simp [setEntries]
  | cons entry rest ih =>
      by_cases present : entry.1 = key
      · simp [setEntries, present]
      · simpa [setEntries, present] using ih

/-- Writing back what is stored changes nothing. -/
theorem set_of_get? {map : InsertionMap κ ν} {key : κ} {value : ν}
    (stored : map.get? key = some value) : map.set key value = map := by
  rcases map with ⟨entries, nodup⟩
  apply ext
  simp only [get?] at stored
  simp only [set]
  clear nodup
  induction entries with
  | nil => simp at stored
  | cons entry rest ih =>
      rcases entry with ⟨head, headValue⟩
      by_cases present : head = key
      · subst head
        simp_all [setEntries]
      · rw [lookup_cons_ite, if_neg (Ne.symm present)] at stored
        simp [setEntries, present, ih stored]

/-- Rewriting a present key keeps the order of the keys. -/
theorem keys_set_of_get? {map : InsertionMap κ ν} {key : κ} {stored : ν}
    (present : map.get? key = some stored) (value : ν) :
    (map.set key value).keys = map.keys := by
  have member : key ∈ map.entries.map Prod.fst := mem_keys_iff.mpr ⟨stored, present⟩
  change (setEntries key value map.entries).map Prod.fst = map.entries.map Prod.fst
  clear present
  generalize map.entries = entries at member
  induction entries with
  | nil => simp at member
  | cons entry rest ih =>
      by_cases equal : entry.1 = key
      · simp [setEntries, equal]
      · have inRest : key ∈ rest.map Prod.fst := by
          simpa [Ne.symm equal] using member
        simp [setEntries, equal, ih inRest]

/-- A fresh key goes to the end. -/
theorem setEntries_of_notMem {key : κ} {entries : List (κ × ν)}
    (absent : key ∉ entries.map Prod.fst) (value : ν) :
    setEntries key value entries = entries ++ [(key, value)] := by
  induction entries with
  | nil => rfl
  | cons entry rest ih =>
      rw [List.map_cons, List.mem_cons, not_or] at absent
      simp [setEntries, Ne.symm absent.1, ih absent.2]

/-- Storing entries with distinct keys into the empty map lists them as given. -/
theorem entries_ofList {entries : List (κ × ν)} (nodup : (entries.map Prod.fst).Nodup) :
    (ofList entries).entries = entries := by
  have appended : ∀ (map : InsertionMap κ ν) (rest : List (κ × ν)),
      (rest.map Prod.fst).Nodup → (∀ entry ∈ rest, entry.1 ∉ map.keys) →
        (rest.foldl (fun map entry => map.set entry.1 entry.2) map).entries =
          map.entries ++ rest := by
    intro map rest
    induction rest generalizing map with
    | nil => simp
    | cons entry rest ih =>
        intro distinct fresh
        rw [List.map_cons, List.nodup_cons] at distinct
        have extended : (map.set entry.1 entry.2).entries = map.entries ++ [entry] :=
          setEntries_of_notMem (fresh entry List.mem_cons_self) entry.2
        rw [List.foldl_cons, ih (map.set entry.1 entry.2) distinct.2, extended]
        · simp
        · intro other member
          rw [mem_keys_set, not_or]
          refine ⟨fun same => ?_, fresh other (List.mem_cons_of_mem _ member)⟩
          exact distinct.1 (same ▸ List.mem_map_of_mem (f := Prod.fst) member)
  simpa [ofList] using appended ∅ entries nodup (by simp)

/-! ## Entries up to order -/

/-- Storing a value leaves its entry and those of the other keys. -/
theorem entries_set_perm (map : InsertionMap κ ν) (key : κ) (value : ν) :
    (map.set key value).entries.Perm ((key, value) :: (map.delete key).entries) := by
  rcases map with ⟨entries, nodup⟩
  simp only [set, delete]
  induction entries with
  | nil => simp [setEntries]
  | cons entry rest ih =>
      rw [List.map_cons, List.nodup_cons] at nodup
      by_cases present : entry.1 = key
      · have kept : rest.filter (fun other => other.1 ≠ key) = rest :=
          List.filter_eq_self.mpr fun other member => by
            simp only [decide_eq_true_eq]
            rintro rfl
            exact nodup.1 (present ▸ List.mem_map_of_mem (f := Prod.fst) member)
        simp only [setEntries, List.filter_cons, present, ne_eq,
          not_true_eq_false, decide_false, Bool.false_eq_true, if_false]
        exact (List.Perm.of_eq kept.symm).cons _
      · simp only [setEntries, List.filter_cons, present, ne_eq,
          not_false_eq_true, decide_true, if_true]
        exact ((ih nodup.2).cons entry).trans (List.Perm.swap _ _ _)

/-- A present entry can be taken out of the list. -/
theorem entries_perm_delete {map : InsertionMap κ ν} {key : κ} {value : ν}
    (stored : map.get? key = some value) :
    map.entries.Perm ((key, value) :: (map.delete key).entries) := by
  have perm := entries_set_perm map key value
  rwa [set_of_get? stored] at perm

/-- Storing under a key that has just been deleted adds one entry. -/
theorem entries_set_delete_perm (map : InsertionMap κ ν) (key : κ) (value : ν) :
    ((map.delete key).set key value).entries.Perm ((key, value) :: (map.delete key).entries) := by
  have absent : key ∉ (map.delete key).keys := fun member => (mem_keys_delete.mp member).1 rfl
  have perm := entries_set_perm (map.delete key) key value
  rwa [delete_of_notMem absent] at perm

theorem values_set_perm (map : InsertionMap κ ν) (key : κ) (value : ν) :
    (map.set key value).values.Perm (value :: (map.delete key).values) :=
  (entries_set_perm map key value).map Prod.snd

theorem values_perm_delete {map : InsertionMap κ ν} {key : κ} {value : ν}
    (stored : map.get? key = some value) :
    map.values.Perm (value :: (map.delete key).values) :=
  (entries_perm_delete stored).map Prod.snd

/-- Storing under a fresh key adds exactly one value. -/
theorem values_set_perm_of_notMem {map : InsertionMap κ ν} {key : κ}
    (absent : key ∉ map.keys) (value : ν) :
    (map.set key value).values.Perm (value :: map.values) := by
  have perm := values_set_perm map key value
  rwa [delete_of_notMem absent] at perm

theorem keys_perm_delete {map : InsertionMap κ ν} {key : κ} (present : key ∈ map.keys) :
    map.keys.Perm (key :: (map.delete key).keys) := by
  obtain ⟨value, stored⟩ := mem_keys_iff.mp present
  exact (entries_perm_delete stored).map Prod.fst

theorem keys_set_perm_of_notMem {map : InsertionMap κ ν} {key : κ}
    (absent : key ∉ map.keys) (value : ν) :
    (map.set key value).keys.Perm (key :: map.keys) := by
  have perm := (entries_set_perm map key value).map Prod.fst
  rwa [delete_of_notMem absent] at perm

/-- A key is determined by what distinguishes the values. -/
theorem eq_key_of_nodup_map {map : InsertionMap κ ν} {f : ν → ω}
    (nodup : (map.values.map f).Nodup) {first second : κ} {firstValue secondValue : ν}
    (firstStored : map.get? first = some firstValue)
    (secondStored : map.get? second = some secondValue)
    (same : f firstValue = f secondValue) : first = second := by
  have distinct : (map.entries.map fun entry => f entry.2).Nodup := by
    simpa [values, List.map_map, Function.comp_def] using nodup
  have equal := List.inj_on_of_nodup_map distinct (mem_entries_iff.mpr firstStored)
    (mem_entries_iff.mpr secondStored) same
  exact congrArg Prod.fst equal

theorem mem_keys_ofList {entries : List (κ × ν)} {key : κ} :
    key ∈ (ofList entries).keys ↔ key ∈ entries.map Prod.fst := by
  have fold : ∀ map : InsertionMap κ ν,
      key ∈ (entries.foldl (fun map entry => map.set entry.1 entry.2) map).keys ↔
        key ∈ map.keys ∨ key ∈ entries.map Prod.fst := by
    induction entries with
    | nil => simp
    | cons entry rest ih =>
        intro map
        rw [List.foldl_cons, ih, mem_keys_set, List.map_cons, List.mem_cons]
        tauto
  simpa [ofList] using fold ∅

/-- Whatever a map built from a list holds was in the list. -/
theorem mem_of_get?_ofList {entries : List (κ × ν)} {key : κ} {value : ν}
    (stored : (ofList entries).get? key = some value) : (key, value) ∈ entries := by
  have fold : ∀ (listed : List (κ × ν)) (map : InsertionMap κ ν),
      (listed.foldl (fun map entry => map.set entry.1 entry.2) map).get? key = some value →
        map.get? key = some value ∨ (key, value) ∈ listed := by
    intro listed
    induction listed with
    | nil => exact fun map held => .inl held
    | cons entry rest ih =>
        intro map held
        rcases ih _ held with earlier | later
        · rw [get?_set] at earlier
          split at earlier
          · rename_i same
            right
            rw [same, ← Option.some.inj earlier]
            exact List.mem_cons_self
          · exact .inl earlier
        · exact .inr (List.mem_cons_of_mem _ later)
  rcases fold entries ∅ stored with impossible | member
  · simp at impossible
  · exact member

/-! ## Keyed updates -/

/-- A map built from two lists has the entries of the second over those of the first. -/
theorem get?_ofList_append (first second : List (κ × ν)) (key : κ) :
    (ofList (first ++ second)).get? key =
      ((ofList second).get? key).or ((ofList first).get? key) := by
  have fold : ∀ (listed : List (κ × ν)) (map : InsertionMap κ ν),
      (listed.foldl (fun map entry => map.set entry.1 entry.2) map).get? key =
        ((ofList listed).get? key).or (map.get? key) := by
    intro listed
    induction listed with
    | nil => exact fun _ => rfl
    | cons entry rest ih =>
        intro map
        rw [ofList, List.foldl_cons, List.foldl_cons, ih, ih (set ∅ _ _), get?_set, get?_set,
          Option.or_assoc]
        split
        · rfl
        · rfl
  rw [ofList, List.foldl_append, fold]
  rfl

/-- The order of the entries does not matter under a key that they agree on. -/
theorem get?_ofList_of_perm {first second : List (κ × ν)} (perm : first.Perm second) {key : κ}
    (agree : ∀ value other, (key, value) ∈ first → (key, other) ∈ first → value = other) :
    (ofList first).get? key = (ofList second).get? key := by
  cases stored : (ofList first).get? key with
  | none =>
      rw [get?_eq_none_iff, mem_keys_ofList] at stored
      symm
      rw [get?_eq_none_iff, mem_keys_ofList]
      exact fun present => stored ((perm.map Prod.fst).mem_iff.mpr present)
  | some value =>
      have listed := mem_of_get?_ofList stored
      have present : key ∈ (ofList second).keys := by
        rw [mem_keys_ofList]
        exact List.mem_map_of_mem (f := Prod.fst) (perm.mem_iff.mp listed)
      obtain ⟨other, found⟩ := mem_keys_iff.mp present
      rw [found, agree value other listed (perm.mem_iff.mpr (mem_of_get?_ofList found))]

variable {α : Type w}

/-- Rewrite the entry of every item's key, from left to right. -/
def upsertAll (key : α → κ) (value : Option ν → α → ν) (items : List α)
    (map : InsertionMap κ ν) : InsertionMap κ ν :=
  items.foldl (fun map item => map.set (key item) (value (map.get? (key item)) item)) map

theorem get?_upsertAll_of_notMem {key : α → κ} {value : Option ν → α → ν} {items : List α}
    {other : κ} (absent : other ∉ items.map key) (map : InsertionMap κ ν) :
    (map.upsertAll key value items).get? other = map.get? other := by
  induction items generalizing map with
  | nil => rfl
  | cons item rest ih =>
      rw [List.map_cons, List.mem_cons, not_or] at absent
      have later := ih absent.2 (map.set (key item) (value (map.get? (key item)) item))
      rw [get?_set, if_neg absent.1] at later
      exact later

/-- Over items with distinct keys every entry is rewritten from what the map
held at the start. -/
theorem get?_upsertAll_of_mem {key : α → κ} {value : Option ν → α → ν} {items : List α}
    (distinct : (items.map key).Nodup) {item : α} (member : item ∈ items)
    (map : InsertionMap κ ν) :
    (map.upsertAll key value items).get? (key item) =
      some (value (map.get? (key item)) item) := by
  induction items generalizing map with
  | nil => cases member
  | cons head rest ih =>
      rw [List.map_cons, List.nodup_cons] at distinct
      have split : (map.upsertAll key value (head :: rest)).get? (key item) =
          ((map.set (key head) (value (map.get? (key head)) head)).upsertAll key value rest).get?
            (key item) := rfl
      rw [split]
      rcases List.mem_cons.mp member with rfl | later
      · rw [get?_upsertAll_of_notMem distinct.1, get?_set_self]
      · have differs : key item ≠ key head := by
          intro same
          exact distinct.1 (same ▸ List.mem_map_of_mem later)
        rw [ih distinct.2 later, get?_set, if_neg differs]

/-- After the update every item's key holds what the last item with that key
made of it. -/
theorem get?_upsertAll_of_mem_keys {key : α → κ} {value : Option ν → α → ν} {items : List α}
    {other : κ} (present : other ∈ items.map key) (map : InsertionMap κ ν) :
    ∃ item ∈ items, key item = other ∧
      ∃ found, (map.upsertAll key value items).get? other = some (value found item) := by
  induction items generalizing map with
  | nil => cases present
  | cons head rest ih =>
      have split : map.upsertAll key value (head :: rest) =
          (map.set (key head) (value (map.get? (key head)) head)).upsertAll key value rest := rfl
      rw [split]
      by_cases later : other ∈ rest.map key
      · obtain ⟨item, member, same, found, stored⟩ :=
          ih later (map.set (key head) (value (map.get? (key head)) head))
        exact ⟨item, List.mem_cons_of_mem _ member, same, found, stored⟩
      · have same : other = key head := by simpa [later] using present
        refine ⟨head, List.mem_cons_self, same.symm, map.get? (key head), ?_⟩
        rw [get?_upsertAll_of_notMem later, same, get?_set_self]

/-- A property that every rewrite keeps survives the whole update. -/
theorem get?_upsertAll_of_preserved {key : α → κ} {value : Option ν → α → ν}
    (property : ν → Prop)
    (preserved : ∀ found item, property found → property (value (some found) item))
    {other : κ} {stored : ν} (holds : property stored) (items : List α)
    {map : InsertionMap κ ν} (present : map.get? other = some stored) :
    ∃ final, (map.upsertAll key value items).get? other = some final ∧ property final := by
  induction items generalizing map stored with
  | nil => exact ⟨stored, present, holds⟩
  | cons item rest ih =>
      have split : map.upsertAll key value (item :: rest) =
          (map.set (key item) (value (map.get? (key item)) item)).upsertAll key value rest := rfl
      rw [split]
      by_cases same : other = key item
      · subst same
        apply ih (preserved stored item holds)
        rw [get?_set_self, present]
      · exact ih holds (by rw [get?_set, if_neg same, present])

/-- An update that would store what is already there changes nothing. -/
theorem upsertAll_eq_self {key : α → κ} {value : Option ν → α → ν} {items : List α}
    {map : InsertionMap κ ν}
    (settled : ∀ item ∈ items, map.get? (key item) = some (value (map.get? (key item)) item)) :
    map.upsertAll key value items = map := by
  induction items with
  | nil => rfl
  | cons item rest ih =>
      have first : map.set (key item) (value (map.get? (key item)) item) = map :=
        set_of_get? (settled item List.mem_cons_self)
      have others := ih fun other member => settled other (List.mem_cons_of_mem _ member)
      calc map.upsertAll key value (item :: rest)
          = (map.set (key item) (value (map.get? (key item)) item)).upsertAll key value rest := rfl
        _ = map := by rw [first, others]

end InsertionMap

end IndigoMatter.Library
