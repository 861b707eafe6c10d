import SchemaRest.Service.Registration
import SchemaRest.Service.Response
import SchemaRest.Request.QuerySpec
import SchemaRest.Sql.Change

/-!
# Serving a table

The six handlers of a table: pages of rows, single rows by the value of a column, queries, and
changes. Nothing is sent to the database before the body of a request has been read.
-/

namespace SchemaRest.Service

/-- What a handler is given of a request. -/
structure Call where
  context : Context
  /-- The last segment of the path, if it is a parameter. -/
  param : String
  body : ByteArray

/-- Reports a failure of the database as one of a handler. -/
def reported {α : Type} (h : Handler) (m : Effect DatabaseError α) : Effect Failure α :=
  m.mapFailure (.queryExecution h)

/-- The column whose value the path gives. -/
def Call.keyColumn (c : Call) : String := (c.context.param? "identifierColumn").getD "id"

def Call.key (c : Call) : Json := .str c.param

/-- The query of a page of a whole table, ordered. -/
def listQuery (settings : Settings) (catalog : Catalog.Snapshot) (table : String) (r : Context) :
    Sql.Select :=
  let column := (r.param? "orderByColumn").getD (catalog.primaryKey table)
  let direction := ((r.param? "orderType").map Sql.Direction.ofText).getD .ascending
  { Sql.Select.all table with columns := settings.visible.select table [] }.order column direction

/-- Always a page, whatever the query string says. -/
def list (settings : Settings) (table : String) (c : Call) : Effect Failure Response := do
  let page : Page := { Page.ofQuery c.context.query with enabled := true }
  let catalog ← Effect.look (·.catalog)
  let q := listQuery settings catalog table c.context
  let total ← reported .list (Database.count q.count)
  let items ← reported .list (Database.fetchAll (page.window q).rows)
  return .ok (page.result items total)

/-- The first row with the key; without one the content is absent. -/
def getOne (settings : Settings) (table : String) (c : Call) : Effect Failure Response := do
  let q := { Sql.Select.all table with
    columns := settings.visible.select table []
    limit := some 1 }.restrictEq c.keyColumn c.key
  let row ← reported .getOne (Database.fetchFirst? q.rows)
  return .envelope 200 Response.codeOk "success" row

/-- The rows in the body of an insertion. -/
def insertsFields : List (Decode.Field (List Fields)) :=
  [Decode.required "inserts" (Decode.listOf Decode.fields) fun v _ => v]

def decodeInserts : Json → Decoded (List Fields) := Decode.record "CreateBody" insertsFields []

/-- There has to be a row, and no row may be without columns. -/
def readInserts (body : ByteArray) : Except Failure (List Fields) := do
  let rows ← Body.parse decodeInserts body
  if rows.isEmpty then .error (Body.invalid "inserts must hold at least one row")
  if rows.any List.isEmpty then .error (Body.invalid "every insert needs at least one column")
  return rows

/-- The generated number is told for a single row only. -/
def create (table : String) (c : Call) : Effect Failure Response := do
  let rows ← Effect.ofExcept (readInserts c.body)
  let (_, id) ← reported .create (Database.execute (Sql.insert table rows))
  return .created (if rows.length = 1 then some (.arr [.nat id]) else none)

/-- The columns to change, of which there has to be one. -/
def readChanges (body : ByteArray) : Except Failure Fields := do
  match ← Body.json body with
  | .obj (p :: rest) => return p :: rest
  | _ => .error (Body.invalid "expected an object with the columns to update")

def update (table : String) (c : Call) : Effect Failure Response := do
  let changes ← Effect.ofExcept (readChanges c.body)
  let (affected, _) ← reported .update
    (Database.execute (Sql.update table changes c.keyColumn c.key))
  return .created (some (.nat affected))

/-- A deletion that does not delete exactly one row is a failure. -/
def delete (table : String) (c : Call) : Effect Failure Response := do
  let (affected, _) ← reported .delete (Database.execute (Sql.delete table c.keyColumn c.key))
  if affected ≠ 1 then Effect.fail (.deletedNone table affected)
  else return .created (some (.str c.param))

/-- The rows that a body asks for, in pages or all at once. -/
def query (settings : Settings) (table : String) (c : Call) : Effect Failure Response := do
  let spec ← Effect.ofExcept (Body.parse QuerySpec.decode c.body)
  let page := (Page.ofQuery c.context.query).override spec.page
  let q ← Effect.ofExcept (spec.select table (settings.visible.select table spec.fields))
  if page.enabled then
    let total ← reported .query (Database.count q.count)
    let items ← reported .query (Database.fetchAll (page.window q).rows)
    return .ok (page.result items total)
  else
    let items ← reported .query (Database.fetchAll q.rows)
    return .unpaginated (.arr items)

end SchemaRest.Service
