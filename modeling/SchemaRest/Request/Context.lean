import SchemaRest.Request.Page
import SchemaRest.Text.Blank

/-!
# Requests

A request without its body, as handlers and access policies see it. A header is readable when its
value is visible ASCII, blanks and tabs; for a repeated header the first value counts, except in
`templateData`, where the last readable one does.
-/

namespace SchemaRest

abbrev Headers := List (String × String)

namespace Headers

/-- A value of visible characters, blanks and tabs. -/
def isReadable (value : String) : Bool :=
  value.toList.all fun c => c = '\t' || (32 ≤ c.toNat && c.toNat ≤ 126)

/-- The first value of a header, its name given in lower case, if it is readable. -/
def first? (headers : Headers) (name : String) : Option String :=
  ((headers.find? fun p => Text.lower p.1 == name).map (·.2)).filter isReadable

/-- The readable headers as a map, names in lower case, the last of a name. -/
def json (headers : Headers) : Json :=
  .ofFields ((headers.filter fun p => isReadable p.2).map fun p => (Text.lower p.1, .str p.2))

end Headers

structure Context where
  method : String
  path : String
  /-- In the order they came. -/
  headers : Headers
  query : QueryString
  deriving Repr

namespace Context

def header? (r : Context) (name : String) : Option String :=
  (Headers.first? r.headers name).map Text.trim

/-- A parameter of the query string that is not blank. -/
def param? (r : Context) (name : String) : Option String :=
  (r.query.lookup name).bind Text.trimmed?

/-- The token of an `Authorization: Bearer` header. -/
def bearerToken? (r : Context) : Option String := do
  let value ← r.header? "authorization"
  let (scheme, token) ← Text.cut? ' ' value
  let token ← Text.trimmed? token
  if Text.eqIgnoreCase scheme "bearer" then some token else none

/-- The scheme and host the client addressed. -/
def hostBase (r : Context) : String :=
  let scheme := ((r.header? "x-forwarded-proto").bind fun v =>
    Text.trimmed? (Text.before ',' v)).getD "http"
  scheme ++ "://" ++ (r.header? "host").getD "localhost"

/-- The data that templates of a delegated policy take their values from. -/
def templateData (r : Context) (permission random : String) : Json :=
  .ofFields [("permissionString", .str permission), ("randomString", .str random),
    ("req", .ofFields [("method", .str r.method), ("path", .str r.path),
      ("query", .ofFields (r.query.map fun p => (p.1, .str p.2))),
      ("headers", Headers.json r.headers)])]

end Context

end SchemaRest
