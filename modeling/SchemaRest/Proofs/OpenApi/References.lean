import SchemaRest.Json.Path
import SchemaRest.Proofs.Json.Fields
import SchemaRest.Proofs.OpenApi.Operations

/-!
# References of operations

The references inside a value, wherever they stand, and which component each reference of an operation
is meant for: an answer that says a failure refers to the schema of failures, the body of a query to the
schema of query bodies, and everything else that refers to a component to the schema of a row.
-/

namespace SchemaRest.OpenApi

open Handler (tableScoped)

/-- A value has a reference in it. -/
inductive Refers : Json → String → Prop
  | here {fields : Fields} {ref : String} (h : ("$ref", .str ref) ∈ fields) : Refers (.obj fields) ref
  | field {fields : Fields} {ref key : String} {v : Json} (h : (key, v) ∈ fields) (hv : Refers v ref) :
      Refers (.obj fields) ref
  | item {items : List Json} {ref : String} {v : Json} (h : v ∈ items) (hv : Refers v ref) :
      Refers (.arr items) ref

/-- The components of a document that the operations of a table are about. -/
inductive Component where
  | row
  | query
  | failure
  deriving DecidableEq, Repr

namespace Component

def name (table : String) : Component → String
  | row => table
  | query => table ++ "_query"
  | failure => "ErrorResponse"

def schema (columns : List Catalog.Column) : Component → Json
  | row => rowSchema columns
  | query => querySchema columns
  | failure => failureSchema

/-- The text of a reference to the component. -/
def reference (table : String) (c : Component) : String :=
  "#" ++ "/components/schemas/" ++ c.name table

end Component

/-- Whether the code of an answer says a failure. -/
def saysFailure (code : String) : Bool := Text.startsWith "4" code || Text.startsWith "5" code

/-- What the answers of a handler are about. -/
def answerComponent? (h : Handler) (code : String) : Option Component :=
  if saysFailure code then some .failure
  else match h with
    | .list | .getOne | .query => some .row
    | _ => none

/-- What the body that a handler takes is about. -/
def bodyComponent? : Handler → Option Component
  | .create | .update => some .row
  | .query => some .query
  | _ => none

/-! ## References of the parts -/

variable {ref table : String} {fields : Fields}

@[simp] theorem refers_bool (b : Bool) : ¬Refers (.bool b) ref := nofun

@[simp] theorem refers_nat (n : Nat) : ¬Refers (.nat n) ref := nofun

@[simp] theorem refers_str (s : String) : ¬Refers (.str s) ref := nofun

@[simp] theorem refers_arr (items : List Json) : Refers (.arr items) ref ↔ ∃ v ∈ items, Refers v ref :=
  ⟨fun | .item h hv => ⟨_, h, hv⟩, fun ⟨_, h, hv⟩ => .item h hv⟩

@[simp] theorem refers_strings (texts : List String) : ¬Refers (.strings texts) ref := by
  simp [Json.strings]

/-- A reference of an object is one of its fields or stands inside of one. -/
theorem refers_obj : Refers (.obj fields) ref ↔ ∃ p ∈ fields, p = ("$ref", .str ref) ∨ Refers p.2 ref := by
  constructor
  · rintro (h | ⟨h, hv⟩)
    · exact ⟨_, h, .inl rfl⟩
    · exact ⟨_, h, .inr hv⟩
  · rintro ⟨p, h, rfl | hv⟩
    · exact .here h
    · exact .field h hv

@[simp] theorem refers_object (h : (fields.map (·.1)).Nodup) :
    Refers (object fields) ref ↔ ∃ p ∈ fields, p = ("$ref", .str ref) ∨ Refers p.2 ref := by
  rw [object, Json.ofFields, refers_obj]
  simp only [Fields.mem_ofList_iff h]

@[simp] theorem refers_reference (name : String) :
    Refers (reference name) ref ↔ ref = "#/components/schemas/" ++ name := by
  simp [reference, eq_comm]

@[simp] theorem refers_typed (type : String) : ¬Refers (typed type) ref := by simp [typed]

@[simp] theorem refers_oneOf (names : List String) : ¬Refers (object (oneOf names)) ref := by
  simp [oneOf]

@[simp] theorem refers_arrayOf (items : Json) : Refers (arrayOf items) ref ↔ Refers items ref := by
  simp [arrayOf]

@[simp] theorem refers_jsonContent (schema : Json) : Refers (jsonContent schema) ref ↔ Refers schema ref := by
  simp [jsonContent]

@[simp] theorem refers_success (description : String) (code : Nat) (content : Json) :
    Refers (success description code content) ref ↔ Refers content ref := by
  simp [success]

@[simp] theorem refers_failed (description : String) :
    Refers (failed description) ref ↔ ref = "#/components/schemas/ErrorResponse" := by
  simp [failed]

@[simp] theorem refers_pageOfRows :
    Refers (pageOfRows table) ref ↔ ref = "#/components/schemas/" ++ table := by
  simp [pageOfRows]

@[simp] theorem refers_insertsSchema :
    Refers (insertsSchema table) ref ↔ ref = "#/components/schemas/" ++ table := by
  simp [insertsSchema]

@[simp] theorem refers_newIdSchema : ¬Refers newIdSchema ref := by simp [newIdSchema]

@[simp] theorem refers_bearerSecurity : ¬Refers bearerSecurity ref := by simp [bearerSecurity]

@[simp] theorem refers_parameter (name description : String) (schema : Json) :
    Refers (parameter name description schema) ref ↔ Refers schema ref := by
  simp [parameter]

/-! ## References of an operation -/

variable {columns : List Catalog.Column} {h : Handler} {o : Operation}

theorem refers_answer (ho : operation? table columns h = some o) :
    ∀ p ∈ o.responses, Refers p.2 ref ↔
      ∃ c, answerComponent? h p.1 = some c ∧ ref = c.reference table := by
  cases h with
  | list | getOne | update | delete | create | query =>
    cases ho
    simp [answerComponent?, saysFailure, Text.startsWith, Component.reference, Component.name,
      unauthorized, databaseFailed, invalidBody]
  | listTables | getTable | refresh | rawQuery | createTable => cases ho

theorem refers_body (ho : operation? table columns h = some o) :
    (∃ schema ∈ o.body, Refers schema ref) ↔
      ∃ c, bodyComponent? h = some c ∧ ref = c.reference table := by
  cases h with
  | list | getOne | update | delete | create | query =>
    cases ho
    simp [bodyComponent?, Component.reference, Component.name]
  | listTables | getTable | refresh | rawQuery | createTable => cases ho

theorem not_refers_parameters (ho : operation? table columns h = some o) :
    ∀ parameters ∈ o.parameters, ¬Refers (.arr parameters) ref := by
  cases h with
  | list | getOne | update | delete | create | query =>
    cases ho
    simp [idParameters, pageParameters, orderParameters]
  | listTables | getTable | refresh | rawQuery | createTable => cases ho

theorem nodup_responses (ho : operation? table columns h = some o) :
    ("$ref" :: o.responses.map (·.1)).Nodup := by
  cases h with
  | list | getOne | update | delete | create | query =>
    cases ho
    simp [unauthorized, databaseFailed, invalidBody]
  | listTables | getTable | refresh | rawQuery | createTable => cases ho

theorem refers_json : Refers (o.json table) ref ↔ Refers (object o.responses) ref ∨
    (∃ parameters ∈ o.parameters, Refers (.arr parameters) ref) ∨ ∃ schema ∈ o.body, Refers schema ref := by
  obtain ⟨summary, parameters, body, responses⟩ := o
  cases parameters <;> cases body <;> simp [Operation.json]

theorem get?_responses (table : String) (o : Operation) :
    (o.json table).get? "responses" = some (object o.responses) := by
  obtain ⟨summary, parameters, body, responses⟩ := o
  refine Fields.get?_ofList (by simp) fun v hv => ?_
  cases parameters <;> cases body <;> simpa using hv

theorem refers_requestBody :
    (∃ body, (o.json table).get? "requestBody" = some body ∧ Refers body ref) ↔
      ∃ schema ∈ o.body, Refers schema ref := by
  obtain ⟨summary, parameters, body, responses⟩ := o
  constructor
  · rintro ⟨v, hv, href⟩
    have hmem := Fields.mem_ofList (Fields.mem_of_get? hv)
    cases parameters <;> cases body <;> simp at hmem
    all_goals
      subst hmem
      simpa using href
  · rintro ⟨schema, rfl, href⟩
    refine ⟨object [("required", .bool true), ("content", jsonContent schema)], ?_, by simpa using href⟩
    refine Fields.get?_ofList (by simp) fun v hv => ?_
    cases parameters <;> simpa using hv

/-- The references of an operation are those of its answers and of its body, and each is meant for the
component it names. -/
structure Operation.RefersAsMeant (h : Handler) (table : String) (operation : Json) : Prop where
  answers : ∀ code answer, operation.at? ["responses", code] = some answer → ∀ ref,
    Refers answer ref ↔ ∃ c, answerComponent? h code = some c ∧ ref = c.reference table
  body : ∀ ref, (∃ body, operation.get? "requestBody" = some body ∧ Refers body ref) ↔
    ∃ c, bodyComponent? h = some c ∧ ref = c.reference table
  elsewhere : ∀ ref, Refers operation ref →
    (∃ code answer, operation.at? ["responses", code] = some answer ∧ Refers answer ref) ∨
      ∃ body, operation.get? "requestBody" = some body ∧ Refers body ref

theorem at?_responses (table code : String) (o : Operation) :
    (o.json table).at? ["responses", code] = (object o.responses).get? code := by
  have hstep : (o.json table).step? "responses" = some (object o.responses) := get?_responses table o
  rw [Json.at?_cons, hstep, Option.bind_some, Json.at?_cons]
  exact Option.bind_fun_some _

theorem refersAsMeant_json (ho : operation? table columns h = some o) :
    Operation.RefersAsMeant h table (o.json table) where
  answers code answer hanswer ref := by
    rw [at?_responses] at hanswer
    exact refers_answer ho _ (Fields.mem_ofList (Fields.mem_of_get? hanswer))
  body ref := refers_requestBody.trans (refers_body ho)
  elsewhere ref href := by
    obtain ⟨href', hnodup⟩ := List.nodup_cons.mp (nodup_responses ho)
    rcases refers_json.mp href with hresponses | ⟨parameters, hparameters, href⟩ | hbody
    · obtain ⟨p, hp, rfl | href⟩ := (refers_object hnodup).mp hresponses
      · exact absurd (List.mem_map_of_mem hp) href'
      · refine .inl ⟨p.1, p.2, ?_, href⟩
        rw [at?_responses]
        refine Fields.get?_ofList hp fun v hv => ?_
        exact congrArg Prod.snd (List.inj_on_of_nodup_map hnodup hv hp rfl)
    · exact absurd href (not_refers_parameters ho parameters hparameters)
    · exact .inr (refers_requestBody.mpr hbody)

end SchemaRest.OpenApi
