import SchemaRest.Database.Run

/-!
# Reading the catalog

The statements that read tables and columns of one schema, and what is made of their rows. Every
text is cast to characters, because some servers keep the catalog in a binary collation. A failure
anywhere fails the whole reading: there is no partial snapshot.
-/

namespace SchemaRest.Catalog

def castAs (source : String) (name : String) : String :=
  "CAST(" ++ source ++ " AS CHAR) AS " ++ name

def castAll (names : List String) : String := Text.joined ", " (names.map fun n => castAs n n)

def tablesSql : String :=
  "SELECT " ++ castAll ["table_name", "table_comment", "table_schema"] ++
    " FROM information_schema.tables WHERE table_schema = ?"

def columnsSql : String :=
  "SELECT " ++ castAll ["column_name", "column_default", "is_nullable", "data_type", "column_type",
      "extra", "column_comment", "column_key"] ++
    " FROM information_schema.columns WHERE table_schema = ? AND table_name = ?" ++
    " ORDER BY ordinal_position"

def relationsSql : String :=
  "SELECT " ++ castAll ["column_name", "referenced_table_schema", "referenced_table_name",
      "referenced_column_name"] ++
    " FROM information_schema.key_column_usage" ++
    " WHERE table_schema = ? AND table_name = ? AND referenced_table_name IS NOT NULL"

/-! ## Rows -/

open Database (Row)

/-- An empty comment is none. -/
def tableOfRow (r : Row) : Except DatabaseError TableInfo := do
  let name ← r.text "table_name"
  let comment ← r.text? "table_comment"
  let schema ← r.text "table_schema"
  return ⟨name, comment.filter (!·.isEmpty), schema⟩

def columnOfRow (r : Row) : Except DatabaseError Column := do
  let name ← r.text "column_name"
  let default ← r.text? "column_default"
  let nullable ← r.text "is_nullable"
  let dataType ← r.text "data_type"
  let columnType ← r.text "column_type"
  let extra ← r.text? "extra"
  let comment ← r.text? "column_comment"
  let key ← r.text? "column_key"
  return {
    name
    default
    nullable := Text.eqIgnoreCase nullable "YES"
    dataType
    columnType
    extra := extra.getD ""
    comment := comment.getD ""
    key := .ofCatalog (key.getD "")
    referencedSchema := none
    referencedTable := none
    referencedColumn := none }

def relationOfRow (r : Row) : Except DatabaseError Relation := do
  let column ← r.text "column_name"
  let schema ← r.text "referenced_table_schema"
  let table ← r.text "referenced_table_name"
  let target ← r.text "referenced_column_name"
  return ⟨column, ⟨schema, table, target⟩⟩

/-! ## Readings -/

/-- The schema that is read, and what the names of the tables left out start with. -/
structure Scope where
  schema : String
  hidden : Option String
  deriving DecidableEq, Repr

def Scope.ofSettings (s : Settings) : Scope := ⟨s.database, s.hiddenTableStart⟩

def listingSent (scope : Scope) : Sent :=
  match scope.hidden with
  | none => .prepared (tablesSql ++ " ORDER BY table_name") [.text scope.schema]
  | some start =>
    .prepared (tablesSql ++ " AND SUBSTRING(table_name, 1, CHAR_LENGTH(?)) <> ?" ++
      " ORDER BY table_name") [.text scope.schema, .text start, .text start]

/-- Runs a statement, reads each row, and reports a failure as one of a reading. -/
def readRows {α : Type} (during : String) (s : Sent) (f : Row → Except DatabaseError α) :
    Effect Failure (List α) :=
  Effect.mapFailure (.introspection during) do
    Effect.ofExcept ((← Database.rows s).mapM f)

def listTables (scope : Scope) : Effect Failure (List TableInfo) :=
  readRows "list_tables" (listingSent scope) tableOfRow

/-- A table that is not there is a failure, never an empty one. -/
def getTable (scope : Scope) (name : String) : Effect Failure TableInfo := do
  let tables ← readRows "get_table"
    (.prepared (tablesSql ++ " AND table_name = ?") [.text scope.schema, .text name]) .ok
  match tables.head? with
  | none => Effect.fail (.notFound ("table " ++ name))
  | some r => Effect.mapFailure (.introspection "get_table") (Effect.ofExcept (tableOfRow r))

/-- The columns in the order of declaration, with what they refer to. -/
def getColumns (scope : Scope) (table : String) : Effect Failure (List Column) := do
  let params : List Sql.Bound := [.text scope.schema, .text table]
  let columns ← readRows "get_columns" (.prepared columnsSql params) columnOfRow
  let relations ← readRows "get_columns" (.prepared relationsSql params) relationOfRow
  return mergeAll columns relations

def getFullTable (scope : Scope) (name : String) : Effect Failure FullTable := do
  let table ← getTable scope name
  let columns ← getColumns scope table.name
  return ⟨table, columns⟩

/-- The columns of some tables, after those read before. -/
def readColumns (scope : Scope) (done : List (String × List Column)) :
    List TableInfo → Effect Failure (List (String × List Column))
  | [] => pure done
  | t :: rest => do
    let columns ← getColumns scope t.name
    readColumns scope (done.filter (·.1 != t.name) ++ [(t.name, columns)]) rest

/-- One reading of everything. -/
def readSnapshot (scope : Scope) : Effect Failure Snapshot := do
  let tables ← listTables scope
  let columns ← readColumns scope [] tables
  return ⟨tables, columns⟩

end SchemaRest.Catalog
