import SchemaRest.Endpoint.Handler

/-!
# Failures

What can go wrong while a request is served, and how it is shown: a message, an HTTP status, a
number that stays the same between releases, and the function and component it is reported under.
`DatabaseError` holds the causes that lie with the database.
-/

namespace SchemaRest

inductive DatabaseError where
  | rowNotFound
  | poolTimedOut
  | poolClosed
  | columnNotFound (name : String)
  /-- The server answered with an error. -/
  | server (code : Nat) (state message : String)
  /-- A null where a value has to be. -/
  | unexpectedNull (column : String)
  /-- A column of a type that cannot be read as what is asked for. -/
  | wrongType (column : String)
  /-- No connection to the server could be made. -/
  | unreachable
  deriving DecidableEq, Repr

def DatabaseError.message : DatabaseError → String
  | rowNotFound => "no rows returned by a query that expected to return at least one row"
  | poolTimedOut => "pool timed out while waiting for an open connection"
  | poolClosed => "attempted to acquire a connection on a closed pool"
  | columnNotFound name => "no column found for name: " ++ name
  | server code state message =>
    "error returned from database: " ++ toString code ++ " (" ++ state ++ "): " ++ message
  | unexpectedNull column =>
    "error occurred while decoding column \"" ++ column ++
      "\": unexpected null; try decoding as an `Option`"
  | wrongType column =>
    "error occurred while decoding column \"" ++ column ++ "\": mismatched types"
  | unreachable => "error communicating with database: Network is unreachable (os error 101)"

inductive Failure where
  /-- Reading the catalog failed in the named function. -/
  | introspection (during : String) (cause : DatabaseError)
  | validation (message : String)
  /-- The database failed inside a handler. -/
  | queryExecution (handler : Handler) (cause : DatabaseError)
  /-- A deletion by key did not delete exactly one row. -/
  | deletedNone (table : String) (affected : Nat)
  | unsupportedBackend (name : String)
  | authorizationDenied (permission : String)
  | authorizationService (message : String)
  | tableAlreadyExists (table : String)
  | notFound (what : String)
  deriving DecidableEq, Repr

namespace Failure

def message : Failure → String
  | introspection _ cause => cause.message
  | validation text => text
  | queryExecution _ cause => "Data base error. " ++ cause.message
  | deletedNone _ _ => "Could not delete from the data base"
  | unsupportedBackend name => "unsupported database engine: " ++ name
  | authorizationDenied _ => "Client not authorized"
  | authorizationService text => "authorization service failed: " ++ text
  | tableAlreadyExists table => "table " ++ table ++ " already exists"
  | notFound what => "not found: " ++ what

def status : Failure → Nat
  | introspection _ _ => 500
  | validation _ => 400
  | queryExecution _ _ => 500
  | deletedNone _ _ => 501
  | unsupportedBackend _ => 500
  | authorizationDenied _ => 401
  | authorizationService _ => 500
  | tableAlreadyExists _ => 409
  | notFound _ => 404

def code : Failure → Nat
  | introspection _ _ => 500101
  | validation _ => 400001
  | queryExecution handler _ => handler.errorCode
  | deletedNone _ _ => 500001
  | unsupportedBackend _ => 500201
  | authorizationDenied _ => 400801
  | authorizationService _ => 500801
  | tableAlreadyExists _ => 409001
  | notFound _ => 404001

/-- The function a failure is reported under. -/
def function : Failure → String
  | introspection during _ => during
  | validation _ => "validate_request"
  | queryExecution handler _ => handler.name
  | deletedNone _ _ => "delete_one_by_id"
  | unsupportedBackend _ => "ensure_supported"
  | authorizationDenied _ => "authorize"
  | authorizationService _ => "authorize"
  | tableAlreadyExists _ => "create_table"
  | notFound _ => "resolve_endpoint"

/-- The component a failure is reported under. -/
def component : Failure → String
  | introspection _ _ => "introspect"
  | validation _ => "handlers"
  | queryExecution _ _ => "handlers"
  | deletedNone _ _ => "handlers"
  | unsupportedBackend _ => "endpoints"
  | authorizationDenied _ => "auth"
  | authorizationService _ => "auth"
  | tableAlreadyExists _ => "ddl"
  | notFound _ => "registry"

end Failure

end SchemaRest
