import SchemaRest.Service.Administration
import SchemaRest.Service.Route
import SchemaRest.OpenApi.Document
import SchemaRest.Policy.Decision

/-!
# Serving requests

From a request to its response. A body is refused by its announced length before anything else;
then the path decides, then the method. An endpoint of the registry is looked up by method and
pattern, its permission is asked for, and only then its handler runs.
-/

namespace SchemaRest.Service

structure Request where
  method : String
  uri : String
  headers : Headers
  body : ByteArray

/-- The greatest length of a body, in bytes. -/
def bodyLimit : Nat := 2097152

/-- The length that a request announces. -/
def announced? (r : Request) : Option Nat :=
  (Headers.first? r.headers "content-length").bind (Text.natUpTo? Text.maxU64)

/-- How much of a body is read. -/
def readable (r : Request) : Nat :=
  match announced? r with
  | some n => min bodyLimit n
  | none => bodyLimit

/-- The request as handlers and policies see it, its path below the API root. -/
def contextOf (apiRoot : String) (r : Request) : Context where
  method := r.method
  path := (Route.below? apiRoot (Target.path r.uri)).getD (Target.path r.uri)
  headers := r.headers
  query := Target.query r.uri

/-- Looks an endpoint up, asks for its permission and runs its handler. -/
def dispatch (settings : Settings) (method pattern : String) (c : Call) :
    Effect Failure Response := do
  match (← Effect.look (·.registry)).resolve? method pattern with
  | none => Effect.fail (.notFound (method ++ " " ++ pattern))
  | some e => do
    Policy.authorize settings.security c.context e.permission
    run settings e c

/-- The report on readiness: endpoints have to be registered and the database has to answer. -/
def readinessReport (reached : Bool) (registration : Registration) : Response :=
  let ready := reached && registration == .registered
  .json (if ready then 200 else 503) (.ofFields [
    ("status", .str (if ready then "ok" else "degraded")),
    ("registration", .str registration.name),
    ("database", .str (if reached then "ok" else "unavailable"))])

/-- Whether the service is ready. -/
def readiness : StateM World Response := fun w =>
  let (answer, w') := Database.answers w
  (readinessReport answer.isOk w.registration, w')

/-- The document of the last snapshot. -/
def document (settings : Settings) (c : Context) : Effect Failure Response := do
  Effect.ofExcept settings.client.ensureSupported
  let catalog ← Effect.look (·.catalog)
  return .json 200 (OpenApi.document (.ofSettings settings) catalog
    (c.hostBase ++ settings.apiRoot) OpenApi.version)

/-- The response to what may fail. -/
def answered (m : Effect Failure Response) : StateM World Response := fun w =>
  match m w with
  | (.ok r, w) => (r, w)
  | (.error e, w) => (.failed w.failureId e, w)

/-- Answers a request whose route is found and whose method it takes. -/
def follow (settings : Settings) (r : Request) (route : Route) : StateM World Response :=
  let c := contextOf settings.apiRoot r
  match route with
  | .health => pure (.plain 200 "Ok")
  | .ready => readiness
  | .docs => pure ⟨200, .html (OpenApi.page settings.apiRoot), false⟩
  | .document => answered (document settings c)
  | route =>
    answered (dispatch settings r.method (route.pattern?.getD "") ⟨c, route.param, r.body⟩)

def PathProblem.response (p : PathProblem) : Response :=
  .plain (match p with | .notText _ => 400 | .notSingle _ => 500) p.message

/-- Answers a request to a route, once its method is known to be one of the route's. -/
def enter (settings : Settings) (r : Request) (place : Place) : StateM World Response :=
  match place.decoded with
  | .error problem => pure problem.response
  | .ok route =>
    if route.takesBody && readable r < r.body.size then
      pure (.plain 413 "Failed to buffer the request body: length limit exceeded")
    else follow settings r route

def serve (settings : Settings) (r : Request) : StateM World Response := do
  if (announced? r).any (bodyLimit < ·) then
    return .plain 413 "length limit exceeded"
  else if r.method == "OPTIONS" then
    return .empty 200
  else match Route.ofPath? settings.apiRoot (Target.path r.uri) with
    | none => return .empty 404
    | some place =>
      if !place.route.methods.contains r.method then return .empty 405
      else
        let response ← enter settings r place
        return if r.method == "HEAD" then response.withoutContent else response

end SchemaRest.Service
