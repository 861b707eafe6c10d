import SchemaRest.Request.Target
import SchemaRest.Text.Blank

/-!
# Routes

The fixed shapes of paths. Two paths stand at the top, all others below the API root, where a path
is cut at its slashes and a shape is looked for segment by segment: a fixed segment before a
parameter, but a later mismatch does not exclude the parameter. The last segment is never empty, and
a fixed one is not; a parameter before the end may be. Segments are compared as they are written and
escapes are read afterwards, only in parameters.

The API root may have parameters of its own. They stand before those of the shape, and a handler
that takes one parameter refuses a path that has more.
-/

namespace SchemaRest.Service

inductive Route where
  | health
  | ready
  | docs
  | document
  | tables
  | table (name : String)
  | action (name : String)
  | collection (table : String)
  | query (table : String)
  | item (table id : String)
  deriving DecidableEq, Repr

/-- Parameters of a path by their names, in their order. -/
abbrev PathParams := List (String × String)

/-- A route, and the parameters that stand in the root before it. -/
structure Place where
  outer : PathParams
  route : Route
  deriving DecidableEq, Repr

/-- Why a handler does not get the parameters of a path. -/
inductive PathProblem where
  /-- The bytes of a parameter are not text. -/
  | notText (name : String)
  /-- One parameter was due. -/
  | notSingle (count : Nat)
  deriving DecidableEq, Repr

def PathProblem.message : PathProblem → String
  | notText name => "Invalid URL: Invalid UTF-8 in \x60" ++ name ++ "\x60"
  | notSingle count =>
    "Wrong number of path arguments for \x60Path\x60. Expected 1 but got " ++ toString count ++
      ". Note that multiple parameters must be extracted with a tuple \x60Path<(_, _)>\x60 or a " ++
      "struct \x60Path<YourParams>\x60"

namespace Route

/-! ## The root -/

def segments (path : String) : List String := (Text.pieces '/' path).drop 1

/-- Takes the segments of a root from the front of a path. A colon in a segment of the root starts
a parameter, which stands for the rest of the segment. -/
def takeRoot (outer : PathParams) : (root path : List String) → Option (PathParams × List String)
  | [], path => some (outer.reverse, path)
  | _ :: _, [] => none
  | r :: root, p :: path =>
    match Text.cut? ':' r with
    | none => if r = p then takeRoot outer root path else none
    | some (start, name) =>
      match Text.after? start p with
      | some value => takeRoot ((name, value) :: outer) root path
      | none => none

/-- What is left of a path after a root: a segment of the root that starts with a colon is any
segment, all others have to be the same. -/
def dropRoot? : (root path : List String) → Option (List String)
  | [], path => some path
  | _ :: _, [] => none
  | r :: root, p :: path =>
    if Text.startsWith ":" r || r = p then dropRoot? root path else none

/-- The path below the root, with one slash in front. -/
def below? (apiRoot path : String) : Option String :=
  (dropRoot? (segments apiRoot) (segments path)).map fun rest =>
    let text := Text.joined "/" rest
    if Text.startsWith "/" text then text else "/" ++ text

/-! ## Shapes -/

/-- The shape below the API root. -/
def ofSegments? (segments : List String) : Option Route :=
  if segments.getLast? = some "" then none
  else match segments with
    | ["docs"] => some docs
    | ["docs", "openapi.json"] => some document
    | ["table"] => some tables
    | ["table", name] => some (table name)
    | ["zero-code", name] => some (action name)
    | [t] => some (collection t)
    | [t, "query"] => some (query t)
    | [t, id] => some (item t id)
    | _ => none

def ofPath? (apiRoot path : String) : Option Place :=
  if path == "/health" then some ⟨[], health⟩
  else if path == "/ready" then some ⟨[], ready⟩
  else
    match takeRoot [] (segments apiRoot) (segments path) with
    | none => none
    | some (outer, rest) => (ofSegments? rest).map (⟨outer, ·⟩)

/-- The methods a route takes. -/
def methods : Route → List String
  | health | ready | docs | document | tables | table _ => ["GET", "HEAD"]
  | action _ | query _ => ["POST"]
  | collection _ => ["GET", "HEAD", "POST"]
  | item _ _ => ["GET", "HEAD", "PUT", "DELETE"]

/-- Whether the body of a request is read. -/
def takesBody : Route → Bool
  | action _ | collection _ | query _ | item _ _ => true
  | _ => false

/-! ## Parameters -/

/-- The parameters as they are written. -/
def params : Route → PathParams
  | table name => [("table_name", name)]
  | action name => [("action", name)]
  | collection t | query t => [("table", t)]
  | item t id => [("table", t), ("id", id)]
  | _ => []

/-- A parameter with its escapes read. -/
def decodeParam (p : String × String) : Except PathProblem String :=
  match Target.decodeSegment? p.2 with
  | some s => .ok s
  | none => .error (.notText p.1)

/-- The only one of some parameters. -/
def single : List String → Except PathProblem String
  | [value] => .ok value
  | values => .error (.notSingle values.length)

/-- The route that a handler acts on, given all parameters of the path in order. -/
def withParams (values : List String) : Route → Except PathProblem Route
  | table _ => (single values).map table
  | action _ => (single values).map action
  | collection _ => (single values).map collection
  | query _ => (single values).map query
  | item t id =>
    match values with
    | first :: second :: _ => .ok (item first second)
    | _ => .ok (item t id)
  | r => .ok r

/-- The pattern that is looked up in the registry; the fixed pages have none. -/
def pattern? : Route → Option String
  | tables => some "/table"
  | table _ => some "/table/:tableName"
  | action name => some ("/zero-code/" ++ name)
  | collection t => some ("/" ++ t)
  | query t => some ("/" ++ t ++ "/query")
  | item t _ => some ("/" ++ t ++ "/:id")
  | _ => none

/-- The parameter a handler is given. -/
def param : Route → String
  | table name => name
  | item _ id => id
  | _ => ""

end Route

/-- The route with the escapes in its parameters read. Routes without parameters do not look at
those of the root. -/
def Place.decoded (p : Place) : Except PathProblem Route :=
  if p.route.params.isEmpty then .ok p.route
  else do p.route.withParams (← (p.outer ++ p.route.params).mapM Route.decodeParam)

end SchemaRest.Service
