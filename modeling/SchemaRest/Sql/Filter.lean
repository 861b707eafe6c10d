import SchemaRest.Sql.Select
import SchemaRest.Json.Decode
import SchemaRest.Failure

/-!
# Filter clauses

What a request says about the rows it wants: a list of clauses, each a column, an operation, a value
and how it joins the ones before. `compile` turns clauses into the conditions of a query, in order;
a clause with an operation of no known name is left out.
-/

namespace SchemaRest.Sql

inductive Operation where
  | compare (op : Comparison)
  | among
  | between
  | isNull
  /-- A name that stands for no operation. -/
  | unsupported
  deriving DecidableEq, Repr

/-- The operations by their names in a request. -/
def Operation.names : List (String × Operation) :=
  [("<", .compare .lt), (">", .compare .gt), ("=", .compare .eq), ("<=", .compare .le),
    (">=", .compare .ge), ("<>", .compare .ne), ("in", .among), ("between", .between),
    ("like", .compare .like), ("null", .isNull)]

def Connector.names : List (String × Connector) := [("and", .and), ("or", .or)]

def Direction.names : List (String × Direction) := [("asc", .ascending), ("desc", .descending)]

structure Clause where
  column : String
  value : Json
  operation : Operation
  negate : Bool
  connector : Connector
  deriving Repr

namespace Clause

/-- A truth value, its name in any case of letters, or null for false. -/
def truth (field : String) (v : Json) : Decoded Bool := do
  match ← Decode.anything v with
  | .null => return false
  | .bool b => return b
  | .str s =>
    if Text.eqIgnoreCase s "true" then return true
    else if Text.eqIgnoreCase s "false" then return false
    else .error (.notTruthValue field (.str s))
  | v => .error (.notTruthValue field v)

def fields : List (Decode.Field Clause) :=
  [Decode.required "column" Decode.text fun v c => { c with column := v },
    Decode.defaulted "value" Decode.anything fun v c => { c with value := v },
    Decode.required "operation" (Decode.choice Operation.names (some .unsupported))
      fun v c => { c with operation := v },
    Decode.defaulted "negate" (truth "negate") fun v c => { c with negate := v },
    (Decode.defaulted "connector" (Decode.choice Connector.names none)
      fun v c => { c with connector := v }).orNamed "operator"]

/-- A clause without a connector joins with `or`. -/
def decode : Json → Decoded Clause :=
  Decode.record "FilterClause" fields ⟨"", .null, .unsupported, false, .or⟩

/-- A text, or the JSON text of another value, anywhere inside. -/
def likePattern (value : Json) : Json :=
  let text := match value with
    | .str s => s
    | v => v.text
  .str ("%" ++ text ++ "%")

/-- The members of a list, or the one value that stands for itself. -/
def members : Json → List Json
  | .arr items => items
  | v => [v]

def predicate? (c : Clause) : Except Failure (Option Predicate) :=
  match c.operation with
  | .compare .like => .ok (some (.compare c.column .like (likePattern c.value)))
  | .compare op => .ok (some (.compare c.column op c.value))
  | .among => .ok (some (.among c.column (members c.value)))
  | .between =>
    match c.value with
    | .arr [low, high] => .ok (some (.between c.column low high))
    | _ => .error (.validation ("between on '" ++ c.column ++ "' needs a two-element array value"))
  | .isNull => .ok (some (.isNull c.column))
  | .unsupported => .ok none

/-- The condition a clause stands for, if its operation is a known one. -/
def condition? (c : Clause) : Except Failure (Option Condition) :=
  (predicate? c).map fun p => p.map fun p => ⟨c.connector, c.negate, p⟩

end Clause

/-- Adds the conditions of the clauses to a query, in order. The first clause that is no condition
fails the whole. -/
def compile : List Clause → Select → Except Failure Select
  | [], q => .ok q
  | c :: rest, q =>
    match c.condition? with
    | .error e => .error e
    | .ok none => compile rest q
    | .ok (some condition) => compile rest (q.restrict condition)

@[simp] theorem compile_nil (q : Select) : compile [] q = .ok q := rfl

end SchemaRest.Sql
