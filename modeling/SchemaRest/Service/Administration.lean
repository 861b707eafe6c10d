import SchemaRest.Service.Table
import SchemaRest.Sql.CreateTable

/-!
# Administering the service

The five handlers that serve no single table: the catalog, registering again, running a statement
as it is, and creating a table.
-/

namespace SchemaRest.Service

def listTables (settings : Settings) : Effect Failure Response := do
  let tables ← Catalog.listTables (.ofSettings settings)
  return .envelope 200 Response.codeOk "Tables selected"
    (some (.arr (tables.map Catalog.TableInfo.json)))

/-- Only the columns that may be shown. -/
def getTable (settings : Settings) (c : Call) : Effect Failure Response := do
  let full ← Catalog.getFullTable (.ofSettings settings) c.param
  let shown := { full with
    columns := Catalog.visible settings.visible full.table.name full.columns }
  return .envelope 200 Response.codeOk "Table selected" (some shown.json)

def refresh (settings : Settings) : Effect Failure Response := do
  let _ ← registerAll settings
  return .envelope 200 Response.codeOk "Endpoints refreshed" none

/-- The statement in a body. -/
def readStatement (body : ByteArray) : Except Failure String := do
  match (← Body.json body).get? "dbQuery" with
  | some (.str s) =>
    if (Text.trim s).isEmpty then .error (Body.invalid "dbQuery is required") else return s
  | _ => .error (Body.invalid "dbQuery is required")

def rawQuery (c : Call) : Effect Failure Response := do
  let sql ← Effect.ofExcept (readStatement c.body)
  let rows ← reported .rawQuery (Database.fetchText sql)
  return .envelope 201 Response.codeOk "Raw query executed" (some (.arr rows))

/-- The description of a table in a body, fit to be created. -/
def readTable (body : ByteArray) : Except Failure Sql.TableSpec := do
  let spec ← Body.parse Sql.TableSpec.decode body
  spec.check
  return spec

/-- A warning means that a table of the name was there before. -/
def createTable (c : Call) : Effect Failure Response := do
  let spec ← Effect.ofExcept (readTable c.body)
  if ← reported .createTable (Database.createsWithoutWarning spec.create) then
    return .envelope 201 Response.codeWritten "Table created" (some (.str spec.create))
  else Effect.fail (.tableAlreadyExists spec.name)

/-! ## Any handler -/

/-- Runs the handler of an endpoint. -/
def run (settings : Settings) (e : Endpoint) (c : Call) : Effect Failure Response :=
  match e.handler with
  | .list => list settings e.tableName c
  | .getOne => getOne settings e.tableName c
  | .create => create e.tableName c
  | .update => update e.tableName c
  | .delete => delete e.tableName c
  | .query => query settings e.tableName c
  | .listTables => listTables settings
  | .getTable => getTable settings c
  | .refresh => refresh settings
  | .rawQuery => rawQuery c
  | .createTable => createTable c

end SchemaRest.Service
