import IndigoMatter.Bridge.EndpointMapSpec

/-!
# The file of the endpoint map

What a write puts in the file, a read gets back, apart from empty strings: a
role, a label or a `supersededBy` that is the empty string is written out and
read as absent.
-/

namespace IndigoMatter.Bridge

open IndigoMatter.Library

/-! ## Properties of written objects -/

theorem property_append (first second : Struct) (name : String) :
    Json.property (first ++ second) name =
      (Json.property second name).or (Json.property first name) := by
  simp only [Json.property, List.reverse_append]
  induction second.reverse with
  | nil => simp
  | cons field rest ih =>
      obtain ⟨other, value⟩ := field
      rw [List.cons_append, List.lookup_cons, List.lookup_cons]
      cases name == other with
      | true => rfl
      | false => exact ih

theorem property_cons (field name : String) (value : Json) (rest : Struct) :
    Json.property ((field, value) :: rest) name =
      (Json.property rest name).or (if name = field then some value else none) := by
  rw [← List.singleton_append, property_append]
  by_cases same : name = field
  · simp [Json.property, same]
  · simp [Json.property, List.lookup_cons, same, beq_false_of_ne same]

theorem property_optionalField (field name : String) (value : Option Json) :
    Json.property (optionalField field value) name = if name = field then value else none := by
  cases value with
  | none => simp [optionalField, Json.property]
  | some present => exact (property_cons field name present []).trans (by simp [Json.property])

theorem property_markerField (field name : String) (marker : Bool) :
    Json.property (markerField field marker) name =
      if name = field then (if marker then some (.boolean true) else none) else none :=
  property_optionalField _ _ _

/-! ## Records -/

/-- A string, unless it is empty. -/
def withoutEmpty (text : Option String) : Option String := text.filter (· ≠ "")

theorem withoutEmpty_eq_some {text : Option String} {value : String}
    (present : withoutEmpty text = some value) : text = some value :=
  (Option.filter_eq_some_iff.mp present).1

/-- What is left of a record when empty strings are dropped. -/
def EndpointRecord.reread (record : EndpointRecord) : EndpointRecord :=
  { record with
    role := withoutEmpty record.role
    label := withoutEmpty record.label
    supersededBy := withoutEmpty record.supersededBy }

theorem nonEmptyString_string (text : Option String) :
    nonEmptyString (text.map Json.string) = withoutEmpty text := by
  cases text with
  | none => rfl
  | some value => by_cases empty : value = "" <;> simp [nonEmptyString, withoutEmpty, Option.filter, empty]

theorem isTrue_marker (marker : Bool) :
    isTrue (if marker then some (.boolean true) else none) = marker := by
  cases marker <;> rfl

theorem integerProperty_number (value : Option Int) :
    integerProperty (value.map fun integer => Json.number (.ofInt integer)) = value := by
  cases value <;> simp [integerProperty]

theorem readRecord_toJson (record : EndpointRecord) :
    readRecord record.toJson = some record.reread := by
  have number : endpointNumber (some (.number (.ofInt record.number))) = some record.number := by
    simp [endpointNumber]
  simp [EndpointRecord.toJson, readRecord, property_append, property_cons,
    property_optionalField, property_markerField,
    nonEmptyString_string, isTrue_marker, integerProperty_number, number, EndpointRecord.reread]

/-! ## The file -/

theorem mapM_map_some {α β γ : Type} {f : β → Option γ} {g : α → β} {h : α → γ}
    (reads : ∀ item, f (g item) = some (h item)) (items : List α) :
    (items.map g).mapM f = some (items.map h) := by
  induction items with
  | nil => rfl
  | cons item rest ih => simp [List.mapM_cons, reads, ih]

/-- Reading what a write put there gives the same identities, each with its
record reread. -/
theorem readMapFile_mapFile (endpoints : InsertionMap String EndpointRecord) :
    readMapFile (mapFile endpoints) =
      some (endpoints.mapValues fun _ record => record.reread) := by
  have written : (InsertionMap.ofList
        (endpoints.entries.map fun entry => (entry.1, entry.2.toJson))).entries =
      endpoints.entries.map fun entry => (entry.1, entry.2.toJson) := by
    apply InsertionMap.entries_ofList
    simpa [List.map_map, Function.comp_def] using endpoints.nodupKeys
  have read : (endpoints.entries.map fun entry => (entry.1, entry.2.toJson)).mapM
        (fun entry => (readRecord entry.2).map fun record => (entry.1, record)) =
      some (endpoints.entries.map fun entry => (entry.1, entry.2.reread)) := by
    apply mapM_map_some
    intro entry
    rw [readRecord_toJson, Option.map_some]
  have stored : InsertionMap.ofList (endpoints.entries.map fun entry =>
      (entry.1, entry.2.reread)) = endpoints.mapValues fun _ record => record.reread := by
    apply InsertionMap.ext
    rw [InsertionMap.entries_ofList]
    · rfl
    · simpa [List.map_map, Function.comp_def] using endpoints.nodupKeys
  have version : isKnownVersion (some (.number (.ofInt ENDPOINT_MAP_VERSION))) = true := by
    simp [isKnownVersion, integerProperty]
  have fields : Json.property
        [("version", .number (.ofInt ENDPOINT_MAP_VERSION)),
          ("endpoints", .object (endpoints.entries.map fun entry => (entry.1, entry.2.toJson)))]
        "version" = some (.number (.ofInt ENDPOINT_MAP_VERSION)) := rfl
  rw [mapFile, readMapFile, fields, if_pos version]
  change readEndpoints (some (.object _)) = _
  rw [readEndpoints, written, read, Option.map_some, stored]

end IndigoMatter.Bridge
