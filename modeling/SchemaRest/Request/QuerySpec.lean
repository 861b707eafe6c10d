import SchemaRest.Sql.Filter
import SchemaRest.Request.Page

/-!
# Query bodies

What may be asked of a table in one request: filter clauses, columns, a page and an order.
-/

namespace SchemaRest

structure SortOrder where
  column : String
  direction : Sql.Direction
  deriving DecidableEq, Repr

def SortOrder.fields : List (Decode.Field SortOrder) :=
  [(Decode.required "column" Decode.text fun v s => { s with column := v }).orNamed "byColumn",
    Decode.defaulted "direction" (Decode.choice Sql.Direction.names none)
      fun v s => { s with direction := v }]

def SortOrder.decode : Json → Decoded SortOrder :=
  Decode.record "SortSpec" SortOrder.fields ⟨"", .ascending⟩

structure QuerySpec where
  filters : List Sql.Clause
  fields : List String
  page : Option PageOverride
  sort : Option SortOrder
  deriving Repr

namespace QuerySpec

def empty : QuerySpec := ⟨[], [], none, none⟩

def members : List (Decode.Field QuerySpec) :=
  [Decode.defaulted "filters" (Decode.listOf Sql.Clause.decode) fun v q => { q with filters := v },
    Decode.defaulted "fields" (Decode.listOf Decode.text) fun v q => { q with fields := v },
    Decode.defaulted "pagination" (Decode.optional PageOverride.decode)
      fun v q => { q with page := v },
    Decode.defaulted "sort" (Decode.optional SortOrder.decode) fun v q => { q with sort := v }]

def decode : Json → Decoded QuerySpec := Decode.record "QuerySpec" members empty

/-- The query of a table that the body describes, without its page. -/
def select (q : QuerySpec) (table : String) (columns : List String) : Except Failure Sql.Select :=
  match Sql.compile q.filters { Sql.Select.all table with columns } with
  | .error e => .error e
  | .ok s =>
    match q.sort with
    | none => .ok s
    | some o => .ok (s.order o.column o.direction)

end QuerySpec

end SchemaRest
