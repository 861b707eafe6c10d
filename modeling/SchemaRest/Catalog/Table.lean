import SchemaRest.Json.Basic
import SchemaRest.Request.Projection

/-!
# Tables of the catalog

What the database says about its tables and columns, and `Snapshot`, the result of reading all of
it once.
-/

namespace SchemaRest.Catalog

structure TableInfo where
  name : String
  comment : Option String
  schema : String
  deriving DecidableEq, Repr

inductive Key where
  | primary
  | unique
  | multiple
  | none
  deriving DecidableEq, Repr

namespace Key

/-- The catalog's words for keys. -/
def ofCatalog (s : String) : Key :=
  if s == "PRI" then primary else if s == "UNI" then unique else if s == "MUL" then multiple
  else none

def name : Key → String
  | primary => "primary"
  | unique => "unique"
  | multiple => "multiple"
  | none => "none"

end Key

/-- A column of another table that a column refers to. -/
structure Target where
  schema : String
  table : String
  column : String
  deriving DecidableEq, Repr

structure Column where
  name : String
  default : Option String
  nullable : Bool
  dataType : String
  /-- The type as declared, with its length and sign. -/
  columnType : String
  extra : String
  comment : String
  key : Key
  referencedSchema : Option String
  referencedTable : Option String
  referencedColumn : Option String
  deriving DecidableEq, Repr

/-- A column refers to a column of another table. -/
structure Relation where
  column : String
  target : Target
  deriving DecidableEq, Repr

structure FullTable where
  table : TableInfo
  columns : List Column
  deriving DecidableEq, Repr

/-- The first column of the primary key, or `id` without one. -/
def primaryKey (columns : List Column) : String :=
  match columns.find? (·.key = .primary) with
  | some c => c.name
  | none => "id"

def Column.refer (c : Column) (t : Target) : Column :=
  { c with
    referencedSchema := some t.schema
    referencedTable := some t.table
    referencedColumn := some t.column }

/-- Gives a target to the first column of a name. -/
def merge (columns : List Column) (r : Relation) : List Column :=
  match columns with
  | [] => []
  | c :: rest => if c.name = r.column then c.refer r.target :: rest else c :: merge rest r

/-- Gives the columns their targets; of two relations of one column the later counts. -/
def mergeAll (columns : List Column) (relations : List Relation) : List Column :=
  relations.foldl merge columns

def visible (settings : VisibleColumns) (table : String) (columns : List Column) : List Column :=
  columns.filter fun c => settings.shows table c.name

/-! ## Snapshots -/

structure Snapshot where
  tables : List TableInfo
  columnsByTable : List (String × List Column)
  deriving DecidableEq, Repr

namespace Snapshot

def empty : Snapshot := ⟨[], []⟩

def columns (s : Snapshot) (table : String) : List Column :=
  (s.columnsByTable.lookup table).getD []

def contains (s : Snapshot) (table : String) : Bool := s.tables.any (·.name == table)

def primaryKey (s : Snapshot) (table : String) : String := Catalog.primaryKey (s.columns table)

def fullTable? (s : Snapshot) (table : String) : Option FullTable :=
  (s.tables.find? (·.name == table)).map fun t => ⟨t, s.columns table⟩

/-- Leaves out the tables that fail a test. -/
def filter (s : Snapshot) (keep : String → Bool) : Snapshot :=
  ⟨s.tables.filter fun t => keep t.name, s.columnsByTable.filter fun p => keep p.1⟩

end Snapshot

/-! ## As JSON -/

def TableInfo.fields (t : TableInfo) : Fields :=
  [("name", .str t.name), ("comment", .optional .str t.comment), ("schema", .str t.schema)]

def TableInfo.json (t : TableInfo) : Json := .ofFields t.fields

/-- A field that is left out without a value. -/
def present (key : String) (value : Option String) : Fields :=
  match value with
  | some s => [(key, .str s)]
  | none => []

def Column.json (c : Column) : Json :=
  .ofFields ([("name", .str c.name), ("defaultValue", .optional .str c.default),
    ("nullable", .bool c.nullable), ("dataType", .str c.dataType),
    ("columnType", .str c.columnType), ("extra", .str c.extra), ("comment", .str c.comment),
    ("key", .str c.key.name)] ++ present "referencedSchema" c.referencedSchema ++
    present "referencedTable" c.referencedTable ++ present "referencedColumn" c.referencedColumn)

def FullTable.json (t : FullTable) : Json :=
  .ofFields (t.table.fields ++ [("columns", .arr (t.columns.map Column.json))])

end SchemaRest.Catalog
