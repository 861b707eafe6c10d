import SchemaRest.Endpoint.Handler
import SchemaRest.Catalog.Table

/-!
# The registry of endpoints

An endpoint is a handler bound to a method and a path pattern, with the permission it asks for. The
registry holds at most one endpoint for a method and a pattern: the first one registered stays.
Endpoints are only ever added. `register` of a snapshot adds the endpoints of its tables, except of
tables whose name is the first segment of a path that belongs to the service itself.
-/

namespace SchemaRest

structure Endpoint where
  path : String
  method : String
  permission : String
  handler : Handler
  table : Option String
  deriving DecidableEq, Repr

namespace Endpoint

def ofTable (table : String) (h : Handler) : Endpoint :=
  ⟨h.path table, h.method, h.permission table, h, some table⟩

def administrative (h : Handler) : Endpoint :=
  ⟨h.path "", h.method, Handler.adminPermission, h, none⟩

/-- The table served; administrative endpoints serve none. -/
def tableName (e : Endpoint) : String := e.table.getD ""

def answers (e : Endpoint) (method path : String) : Bool := e.method == method && e.path == path

/-- The order of listings: by path, then by method. -/
def before (a b : Endpoint) : Bool :=
  decide (a.path < b.path) || (a.path == b.path && decide (a.method ≤ b.method))

end Endpoint

/-- First path segments that belong to the service itself. -/
def reservedSegments : List String := ["table", "zero-code", "docs"]

structure Registry where
  /-- In the order they were registered. -/
  endpoints : List Endpoint
  deriving DecidableEq, Repr

namespace Registry

def empty : Registry := ⟨[]⟩

def resolve? (r : Registry) (method path : String) : Option Endpoint :=
  r.endpoints.find? (·.answers method path)

/-- Whether the endpoint was added, and the registry after. -/
def register (r : Registry) (e : Endpoint) : Bool × Registry :=
  if (r.resolve? e.method e.path).isSome then (false, r) else (true, ⟨r.endpoints ++ [e]⟩)

/-- How many of some endpoints were added. -/
def registerAll (r : Registry) (es : List Endpoint) : Nat × Registry :=
  es.foldl (fun p e =>
    let (added, r) := p.2.register e
    (if added then p.1 + 1 else p.1, r)) (0, r)

def size (r : Registry) : Nat := r.endpoints.length

def isEmpty (r : Registry) : Bool := r.endpoints.isEmpty

/-- The endpoints in the order of listings. -/
def listing (r : Registry) : List Endpoint := r.endpoints.mergeSort Endpoint.before

/-- The tables with an endpoint, in order, each once. -/
def tables (r : Registry) : List String :=
  ((r.endpoints.filterMap (·.table)).eraseDups).mergeSort (fun a b => decide (a ≤ b))

end Registry

/-- The endpoints of the tables, then the administrative ones. -/
def Catalog.Snapshot.endpoints (s : Catalog.Snapshot) : List Endpoint :=
  s.tables.flatMap (fun t => Handler.tableScoped.map (Endpoint.ofTable t.name)) ++
    Handler.administrative.map Endpoint.administrative

/-- The part of a snapshot that can be served. -/
def Catalog.Snapshot.served (s : Catalog.Snapshot) : Catalog.Snapshot :=
  s.filter fun name => !reservedSegments.contains name

end SchemaRest
