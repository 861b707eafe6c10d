import SchemaRest.Catalog.Table
import SchemaRest.Sql.Filter

/-!
# Schemas of the document

For every table the document has the schema of a row and the schema of a query body. A column's
schema type follows its declared type, and a column that cannot be null is required.
-/

namespace SchemaRest.OpenApi

def object (fields : Fields) : Json := .ofFields fields

/-- A schema that says a type and nothing more. -/
def typed (type : String) : Json := object [("type", .str type)]

def oneOf (names : List String) : Fields := [("type", .str "string"), ("enum", .strings names)]

def arrayOf (items : Json) : Json := object [("type", .str "array"), ("items", items)]

def reference (name : String) : Json :=
  object [("$ref", .str ("#/components/schemas/" ++ name))]

/-- The type and the format of a column's values. -/
def columnType (c : Catalog.Column) : String × Option String :=
  let t := Text.lower c.dataType
  if t == "tinyint" && Text.startsWith "tinyint(1)" (Text.lower c.columnType) then
    ("boolean", none)
  else if t == "bigint" then ("integer", some "int64")
  else if ["tinyint", "smallint", "mediumint", "int", "integer", "year"].contains t then
    ("integer", some "int32")
  else if t == "float" then ("number", some "float")
  else if t == "double" || t == "real" then ("number", some "double")
  else if t == "decimal" || t == "numeric" then ("string", some "decimal")
  else if t == "date" then ("string", some "date")
  else if t == "datetime" || t == "timestamp" then ("string", some "date-time")
  else if t == "json" then ("object", none)
  else if ["binary", "varbinary", "blob", "tinyblob", "mediumblob", "longblob"].contains t then
    ("string", some "binary")
  else ("string", none)

def columnSchema (c : Catalog.Column) : Json :=
  let (type, format) := columnType c
  object ([("type", .str type), ("x-column-type", .str c.columnType)] ++
    Catalog.present "format" format ++
    (if c.nullable then [("nullable", .bool true)] else []) ++
    (if c.comment.isEmpty then [] else [("description", .str c.comment)]))

/-- The columns a row has to have. -/
def required (columns : List Catalog.Column) : List String :=
  (columns.filter fun c => !c.nullable).map (·.name)

/-- The schema of a row. -/
def rowSchema (columns : List Catalog.Column) : Json :=
  let needed := required columns
  object ([("type", .str "object"),
    ("properties", object (columns.map fun c => (c.name, columnSchema c)))] ++
    if needed.isEmpty then [] else [("required", .strings needed)])

/-- The operations of filter clauses, as requests name them. -/
def operations : List String := Sql.Operation.names.map (·.1)

def clauseSchema (names : List String) : Json :=
  object [("type", .str "object"), ("required", .strings ["column", "operation"]),
    ("properties", object [
      ("column", object (oneOf names)),
      ("value", object []),
      ("operation", object (oneOf operations)),
      ("negate", typed "boolean"),
      ("connector", object (oneOf (Sql.Connector.names.map (·.1)) ++
        [("default", .str "or")]))])]

def pageSchema : Json :=
  object [("type", .str "object"), ("properties", object [
    ("pagination", object [("type", .str "boolean"), ("default", .bool true)]),
    ("itemsPerPage", typed "integer"), ("pageIndex", typed "integer")])]

def sortSchema (names : List String) : Json :=
  object [("type", .str "object"), ("properties", object [
    ("column", object (oneOf names)),
    ("direction", object (oneOf (Sql.Direction.names.map (·.1))))])]

/-- The schema of a query body. -/
def querySchema (columns : List Catalog.Column) : Json :=
  let names := columns.map (·.name)
  object [("type", .str "object"), ("required", .strings ["filters"]), ("properties", object [
    ("filters", arrayOf (clauseSchema names)),
    ("fields", arrayOf (object (oneOf names))),
    ("pagination", pageSchema),
    ("sort", sortSchema names)])]

/-- The schema of a failure. -/
def failureSchema : Json :=
  object [("type", .str "object"), ("properties", object [
    ("message", typed "string"),
    ("code", object [("type", .str "integer"), ("example", .nat 500001)]),
    ("errorUUID", object [("type", .str "string"), ("format", .str "uuid")])])]

end SchemaRest.OpenApi
