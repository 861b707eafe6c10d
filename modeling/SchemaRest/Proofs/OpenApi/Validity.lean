import SchemaRest.OpenApi.Schema
import SchemaRest.Proofs.Json.Fields

/-!
# Values that are valid against a schema

A schema is an object of keywords, each of which says something of a value and is asked on its own: the
type, the fields that have to be there, the values that are possible, and the schemas of fields and of
items. A keyword about objects or about arrays holds of every other value, a field that no schema describes
may be anything, and all other keywords hold of everything.

Whether a number in floating point form can be a whole number is left open.
-/

namespace SchemaRest.OpenApi

section

variable (whole : Double → Bool)

def hasType (type : String) : Json → Bool
  | .null => false
  | .bool _ => type == "boolean"
  | .num (.int _) => type == "integer" || type == "number"
  | .num (.double d) => type == "number" || (type == "integer" && whole d)
  | .str _ => type == "string"
  | .arr _ => type == "array"
  | .obj _ => type == "object"

/-- The keywords that look at nothing inside a value but the names of its fields. -/
def holds (keyword : String) (arg v : Json) : Bool :=
  if keyword = "type" then arg.asStr?.all fun type => hasType whole type v
  else if keyword = "required" then
    v.asObj?.all fun fields => arg.asArr?.all fun names => names.all fun name =>
      name.asStr?.all fun name => (Fields.get? name fields).isSome
  else if keyword = "enum" then arg.asArr?.all fun values => values.any (·.same v)
  else true

mutual

def valid (schema v : Json) : Bool :=
  match schema with
  | .obj keywords => validAll keywords v
  | _ => false

def validAll : List (String × Json) → Json → Bool
  | [], _ => true
  | (keyword, arg) :: rest, v =>
    (if keyword = "items" then v.asArr?.all fun items => items.all fun item => valid arg item
    else if keyword = "properties" then
      match arg with
      | .obj properties => validFields properties v
      | _ => true
    else holds whole keyword arg v) && validAll rest v

def validFields : List (String × Json) → Json → Bool
  | [], _ => true
  | (name, schema) :: rest, v => ((v.get? name).all fun field => valid schema field) && validFields rest v

end

end

/-! ## Keywords -/

section

variable {whole : Double → Bool} {keyword : String} {arg v : Json} {pairs : Fields}

variable (whole keyword arg v) in
/-- What one keyword says of a value. -/
def validKeyword : Bool :=
  if keyword = "items" then v.asArr?.all fun items => items.all fun item => valid whole arg item
  else if keyword = "properties" then
    match arg with
    | .obj properties => validFields whole properties v
    | _ => true
  else holds whole keyword arg v

theorem validAll_iff : validAll whole pairs v = true ↔
    ∀ p ∈ pairs, validKeyword whole p.1 p.2 v = true := by
  induction pairs with
  | nil => simp [validAll]
  | cons p pairs ih =>
    obtain ⟨keyword, arg⟩ := p
    have hcons : validAll whole ((keyword, arg) :: pairs) v =
        (validKeyword whole keyword arg v && validAll whole pairs v) := by
      cases arg <;> simp only [validAll, validKeyword]
    rw [hcons, Bool.and_eq_true, ih, List.forall_mem_cons]

theorem validFields_iff : validFields whole pairs v = true ↔
    ∀ p ∈ pairs, ∀ field, v.get? p.1 = some field → valid whole p.2 field = true := by
  induction pairs with
  | nil => simp [validFields]
  | cons p pairs ih =>
    have hcons : validFields whole (p :: pairs) v =
        ((v.get? p.1).all (fun field => valid whole p.2 field) && validFields whole pairs v) := rfl
    rw [hcons, Bool.and_eq_true, ih, List.forall_mem_cons]
    cases v.get? p.1 <;> simp

/-- A schema says what each of its keywords says. -/
theorem valid_object_iff (h : (pairs.map (·.1)).Nodup) : valid whole (object pairs) v = true ↔
    ∀ p ∈ pairs, validKeyword whole p.1 p.2 v = true := by
  have hobject : valid whole (object pairs) v = validAll whole (Fields.ofList pairs) v := rfl
  rw [hobject, validAll_iff]
  exact forall_congr' fun p => imp_congr_left (Fields.mem_ofList_iff h)

theorem validKeyword_type (type : String) (v : Json) :
    validKeyword whole "type" (.str type) v = hasType whole type v := by
  simp [validKeyword, holds, Json.asStr?]

theorem validKeyword_required_iff {names : List String} {fields : Fields} :
    validKeyword whole "required" (.strings names) (.obj fields) = true ↔
      ∀ name ∈ names, (Fields.get? name fields).isSome := by
  simp [validKeyword, holds, Json.asObj?, Json.asArr?, Json.asStr?, Json.strings]

theorem validKeyword_enum_iff {names : List String} :
    validKeyword whole "enum" (.strings names) v = true ↔ ∃ name ∈ names, v = .str name := by
  have hsame : ∀ name, (Json.str name).same v = true ↔ v = .str name := by
    intro name
    cases v with
    | str text =>
      rw [Json.same, beq_iff_eq, Json.str.injEq]
      exact eq_comm
    | _ => simp [Json.same]
  simp [validKeyword, holds, Json.asArr?, Json.strings, hsame]

theorem validKeyword_properties_iff (h : (pairs.map (·.1)).Nodup) :
    validKeyword whole "properties" (object pairs) v = true ↔
      ∀ p ∈ pairs, ∀ field, v.get? p.1 = some field → valid whole p.2 field = true := by
  have hproperties : validKeyword whole "properties" (object pairs) v =
      validFields whole (Fields.ofList pairs) v := rfl
  rw [hproperties, validFields_iff]
  exact forall_congr' fun p => imp_congr_left (Fields.mem_ofList_iff h)

theorem validKeyword_items_iff {items : List Json} :
    validKeyword whole "items" arg (.arr items) = true ↔ ∀ item ∈ items, valid whole arg item = true := by
  simp [validKeyword, Json.asArr?]

theorem validKeyword_default (arg v : Json) : validKeyword whole "default" arg v = true := by
  simp [validKeyword, holds]

/-! ## Schemas -/

theorem hasType_string_iff : hasType whole "string" v = true ↔ ∃ text, v = .str text := by
  cases v with
  | num n => cases n <;> simp [hasType]
  | _ => simp [hasType]

theorem hasType_boolean_iff : hasType whole "boolean" v = true ↔ ∃ b, v = .bool b := by
  cases v with
  | num n => cases n <;> simp [hasType]
  | _ => simp [hasType]

theorem hasType_object_iff : hasType whole "object" v = true ↔ ∃ fields, v = .obj fields := by
  cases v with
  | num n => cases n <;> simp [hasType]
  | _ => simp [hasType]

theorem hasType_array_iff : hasType whole "array" v = true ↔ ∃ items, v = .arr items := by
  cases v with
  | num n => cases n <;> simp [hasType]
  | _ => simp [hasType]

theorem valid_typed_iff {type : String} : valid whole (typed type) v = true ↔
    hasType whole type v = true := by
  rw [typed, valid_object_iff (by simp), List.forall_mem_singleton, validKeyword_type]

/-- One of some names, with or without a default. -/
theorem valid_oneOf_iff {names : List String} : valid whole (object (oneOf names)) v = true ↔
    ∃ name ∈ names, v = .str name := by
  rw [oneOf, valid_object_iff (by simp), List.forall_mem_cons, List.forall_mem_singleton, validKeyword_type,
    validKeyword_enum_iff, hasType_string_iff]
  constructor
  · exact And.right
  · rintro ⟨name, hname, rfl⟩
    exact ⟨⟨name, rfl⟩, name, hname, rfl⟩

theorem valid_defaulted_iff {fields : Fields} {value : Json}
    (h : ((fields ++ [("default", value)]).map (·.1)).Nodup) :
    valid whole (object (fields ++ [("default", value)])) v = true ↔
      valid whole (object fields) v = true := by
  have hfields : (fields.map (·.1)).Nodup := by
    rw [List.map_append] at h
    exact h.of_append_left
  rw [valid_object_iff h, valid_object_iff hfields, List.forall_mem_append, List.forall_mem_singleton,
    validKeyword_default]
  exact and_iff_left rfl

theorem valid_arrayOf_iff {schema : Json} : valid whole (arrayOf schema) v = true ↔
    ∃ items, v = .arr items ∧ ∀ item ∈ items, valid whole schema item = true := by
  rw [arrayOf, valid_object_iff (by simp), List.forall_mem_cons, List.forall_mem_singleton, validKeyword_type,
    hasType_array_iff]
  constructor
  · rintro ⟨⟨items, rfl⟩, hitems⟩
    exact ⟨items, rfl, validKeyword_items_iff.mp hitems⟩
  · rintro ⟨items, rfl, hitems⟩
    exact ⟨⟨items, rfl⟩, validKeyword_items_iff.mpr hitems⟩

/-- An object with the fields that are required, and each field as its schema says. -/
theorem valid_record_iff {names : List String} (h : (pairs.map (·.1)).Nodup) :
    valid whole (object [("type", .str "object"), ("required", .strings names),
      ("properties", object pairs)]) v = true ↔
    ∃ fields, v = .obj fields ∧ (∀ name ∈ names, (Fields.get? name fields).isSome) ∧
      ∀ p ∈ pairs, ∀ field, Fields.get? p.1 fields = some field → valid whole p.2 field = true := by
  rw [valid_object_iff (by simp), List.forall_mem_cons, List.forall_mem_cons, List.forall_mem_singleton,
    validKeyword_type, hasType_object_iff, validKeyword_properties_iff h]
  constructor
  · rintro ⟨⟨fields, rfl⟩, hrequired, hproperties⟩
    exact ⟨fields, rfl, validKeyword_required_iff.mp hrequired, hproperties⟩
  · rintro ⟨fields, rfl, hrequired, hproperties⟩
    exact ⟨⟨fields, rfl⟩, validKeyword_required_iff.mpr hrequired, hproperties⟩

theorem valid_optional_iff (h : (pairs.map (·.1)).Nodup) :
    valid whole (object [("type", .str "object"), ("properties", object pairs)]) v = true ↔
    ∃ fields, v = .obj fields ∧
      ∀ p ∈ pairs, ∀ field, Fields.get? p.1 fields = some field → valid whole p.2 field = true := by
  rw [valid_object_iff (by simp), List.forall_mem_cons, List.forall_mem_singleton, validKeyword_type,
    hasType_object_iff, validKeyword_properties_iff h]
  constructor
  · rintro ⟨⟨fields, rfl⟩, hproperties⟩
    exact ⟨fields, rfl, hproperties⟩
  · rintro ⟨fields, rfl, hproperties⟩
    exact ⟨⟨fields, rfl⟩, hproperties⟩

end

end SchemaRest.OpenApi
