import SchemaRest.OpenApi.Schema
import SchemaRest.Endpoint.Handler

/-!
# Operations of the document

Every handler that serves a table is one operation of the document: its parameters, the body it
takes and the answers it gives. The handlers of a table share three paths.
-/

namespace SchemaRest.OpenApi

/-! ## Answers -/

def jsonContent (schema : Json) : Json := object [("application/json", object [("schema", schema)])]

/-- A successful answer with its content. -/
def success (description : String) (code : Nat) (content : Json) : Json :=
  object [("description", .str description),
    ("content", jsonContent (object [("type", .str "object"), ("properties", object [
      ("message", object [("type", .str "string"), ("example", .str "success")]),
      ("code", object [("type", .str "integer"), ("example", .nat code)]),
      ("content", content)])]))]

def failed (description : String) : Json :=
  object [("description", .str description), ("content", jsonContent (reference "ErrorResponse"))]

def unauthorized : String × Json := ("401", failed "Client not authorized")

def databaseFailed : String × Json := ("500", failed "Data base error")

def invalidBody : String × Json := ("400", failed "Invalid body")

/-- A page of rows. -/
def pageOfRows (table : String) : Json :=
  object [("type", .str "object"), ("properties", object [
    ("items", arrayOf (reference table)), ("pageIndex", typed "integer"),
    ("itemsPerPage", typed "integer"), ("totalItems", typed "integer"),
    ("totalPages", typed "integer")])]

/-! ## Parameters -/

def parameter (name description : String) (schema : Json) : Json :=
  object [("name", .str name), ("in", .str "query"), ("required", .bool false),
    ("schema", schema), ("description", .str description)]

def idParameters : List Json :=
  [object [("name", .str "id"), ("in", .str "path"), ("required", .bool true),
      ("example", .nat 1), ("schema", typed "string"),
      ("description", .str "Value of the identifier column")],
    parameter "identifierColumn" "Column matched against the id, default id" (typed "string")]

def pageParameters : List Json :=
  [parameter "itemsPerPage" "Rows per page, default 20" (typed "integer"),
    parameter "pageIndex" "Page number starting from 0" (typed "integer")]

def orderParameters (columns : List Catalog.Column) : List Json :=
  [parameter "orderByColumn" "Sort column, default id" (object (oneOf (columns.map (·.name)))),
    parameter "orderType" "Sort direction, default asc" (object (oneOf ["asc", "desc"]))]

/-! ## Operations -/

structure Operation where
  summary : String
  parameters : Option (List Json)
  /-- The schema of the body, if one is taken. -/
  body : Option Json
  responses : Fields

def bearerSecurity : Json := .arr [object [("bearerAuth", .arr [])]]

def Operation.json (table : String) (o : Operation) : Json :=
  object ([("tags", .strings [table]), ("summary", .str o.summary), ("security", bearerSecurity),
    ("responses", object o.responses)] ++
    (match o.parameters with
      | some ps => [("parameters", .arr ps)]
      | none => []) ++
    (match o.body with
      | some schema => [("requestBody",
          object [("required", .bool true), ("content", jsonContent schema)])]
      | none => []))

def insertsSchema (table : String) : Json :=
  object [("type", .str "object"), ("required", .strings ["inserts"]),
    ("properties", object [("inserts", arrayOf (reference table))])]

def newIdSchema : Json :=
  object [("type", .str "array"), ("items", typed "integer"), ("example", .arr [.nat 1])]

/-- What a handler that serves a table does, if it is one. -/
def operation? (table : String) (columns : List Catalog.Column) : Handler → Option Operation
  | .list => some {
      summary := "Get all " ++ table ++ " rows"
      parameters := some (orderParameters columns ++ pageParameters)
      body := none
      responses := [("200", success "success" 200000 (pageOfRows table)), unauthorized,
        databaseFailed] }
  | .create => some {
      summary := "Create new " ++ table ++ " rows"
      parameters := none
      body := some (insertsSchema table)
      responses := [("201", success
          "success, with the id of the new row when a single row is inserted" 200001 newIdSchema),
        invalidBody, unauthorized, databaseFailed] }
  | .getOne => some {
      summary := "Get one " ++ table ++ " row"
      parameters := some idParameters
      body := none
      responses := [("200", success "success" 200000 (reference table)), unauthorized,
        databaseFailed] }
  | .update => some {
      summary := "Update one " ++ table ++ " row"
      parameters := some idParameters
      body := some (reference table)
      responses := [("201", success "success, with the affected row count" 200001
          (typed "integer")), invalidBody, unauthorized, databaseFailed] }
  | .delete => some {
      summary := "Delete one " ++ table ++ " row"
      parameters := some idParameters
      body := none
      responses := [("201", success "success, with the deleted id" 200001 (typed "string")),
        unauthorized, databaseFailed, ("501", failed "No row was deleted")] }
  | .query => some {
      summary := "Query the " ++ table ++ " table"
      parameters := some (parameter "pagination"
        "Set to false to disable pagination, default true" (typed "boolean") :: pageParameters)
      body := some (reference (table ++ "_query"))
      responses := [("200", success
          "success; code 200001 with a plain array when pagination is disabled" 200000
          (object [("oneOf", .arr [pageOfRows table, arrayOf (reference table)])])),
        invalidBody, unauthorized, databaseFailed] }
  | _ => none

/-! ## Paths -/

/-- The path of a handler that serves a table, its parameter in braces. -/
def pathTemplate (table : String) : Handler → String
  | .getOne | .update | .delete => "/" ++ table ++ "/\x7bid\x7d"
  | h => h.path table

/-- The handlers that share a path. -/
def pathGroups : List (List Handler) :=
  [[.list, .create], [.getOne, .update, .delete], [.query]]

def pathItem (table : String) (columns : List Catalog.Column) (handlers : List Handler) : Json :=
  object (handlers.filterMap fun h =>
    (operation? table columns h).map fun o => (Text.lower h.method, o.json table))

/-- The paths of one table. -/
def tablePaths (table : String) (columns : List Catalog.Column) : Fields :=
  pathGroups.filterMap fun group =>
    group.head?.map fun h => (pathTemplate table h, pathItem table columns group)

end SchemaRest.OpenApi
