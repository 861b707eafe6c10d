import SchemaRest.Json.Decode
import SchemaRest.Request.Projection
import SchemaRest.Failure
import SchemaRest.Text.Blank

/-!
# Settings

What the service is started with, and `Settings.check`, which says of settings that could be read
whether they can be served.
-/

namespace SchemaRest

inductive SettingsError where
  | missing (key : String)
  | invalid (key problem : String)
  | unreadable (file problem : String)
  deriving DecidableEq, Repr

def SettingsError.message : SettingsError → String
  | missing key => "missing setting: " ++ key
  | invalid key problem => "invalid setting " ++ key ++ ": " ++ problem
  | unreadable file problem => "config load: " ++ file ++ ": " ++ problem

/-- The kind of database server. Only one kind can be served. -/
inductive Client where
  | mysql
  | other (name : String)
  deriving DecidableEq, Repr

namespace Client

def ofName (name : String) : Client :=
  let n := Text.lower (Text.trim name)
  if n == "mysql" || n == "mysql2" then .mysql else .other n

def ensureSupported : Client → Except Failure Unit
  | .mysql => .ok ()
  | .other name => .error (.unsupportedBackend name)

end Client

/-! ## Access policies -/

/-- What is posted to an access service. A text that starts with `$.` names a part of the request
data. -/
structure RequestTemplate where
  body : Fields
  headers : List (String × String)
  deriving Repr

/-- Access is allowed when the named part of the answer is this value. -/
structure AnswerTest where
  path : String
  value : Json
  deriving Repr

structure Delegation where
  baseUrl : String
  endpoint : String
  template : RequestTemplate
  test : AnswerTest
  deriving Repr

inductive Security where
  | disabled
  /-- The caller's token is checked by an endpoint. -/
  | bearer (endpoint appIdentifier : String)
  /-- A request made from a template decides. -/
  | delegated (delegation : Delegation)
  deriving Repr

namespace Delegation

def templateFields : List (Decode.Field RequestTemplate) :=
  [Decode.defaulted "body" Decode.fields fun v t => { t with body := v },
    Decode.defaulted "headers" (Decode.mapOf Decode.text)
      fun v t => { t with headers := v }]

def testFields : List (Decode.Field AnswerTest) :=
  [Decode.required "valueToEvaluate" Decode.text fun v t => { t with path := v },
    Decode.required "equalTo" Decode.anything fun v t => { t with value := v }]

def emptyTest : AnswerTest := ⟨"", .null⟩

def empty : Delegation := ⟨"", "", ⟨[], []⟩, emptyTest⟩

def accessFields : List (Decode.Field Delegation) :=
  [Decode.required "endpoint" Decode.text fun v d => { d with endpoint := v },
    (Decode.defaulted "requestConf" (Decode.record "RequestTemplate" templateFields ⟨[], []⟩)
      fun v d => { d with template := v }).within (Decode.outline templateFields),
    (Decode.required "responseEvaluationConfig"
      (Decode.record "ResponseEvaluation" testFields emptyTest)
      fun v d => { d with test := v }).within (Decode.outline testFields)]

def fields : List (Decode.Field Delegation) :=
  [Decode.required "httpBaseUrl" Decode.text fun v d => { d with baseUrl := v },
    ⟨"validateAccess", none, true, Decode.outline accessFields,
      fun v d => Decode.record "ValidateAccess" accessFields d v⟩]

def outline : Json.Outline := Decode.outline fields

def decode : Json → Decoded Delegation := Decode.record "DelegatedSecurity" fields empty

/-- The description with everything left out filled in. -/
def encode (d : Delegation) : Json :=
  .ofFields [("httpBaseUrl", .str d.baseUrl), ("validateAccess", .ofFields [
    ("endpoint", .str d.endpoint),
    ("requestConf", .ofFields [("body", .ofFields d.template.body),
      ("headers", .ofFields (d.template.headers.map fun p => (p.1, .str p.2)))]),
    ("responseEvaluationConfig", .ofFields [("valueToEvaluate", .str d.test.path),
      ("equalTo", d.test.value)])])]

end Delegation

/-! ## Settings -/

structure Contact where
  email : String
  name : String
  url : String
  deriving DecidableEq, Repr

structure Settings where
  port : Nat
  databaseUrl : String
  client : Client
  /-- The schema whose tables are served. -/
  database : String
  maxConnections : Nat
  hideSystemTables : Bool
  /-- What the names of system tables start with. -/
  systemTableStart : String
  /-- Where the service is mounted. -/
  apiRoot : String
  contact : Contact
  security : Security
  visible : VisibleColumns
  deriving Repr

namespace Settings

/-- Tables whose names start with this are left out, if any are. -/
def hiddenTableStart (s : Settings) : Option String :=
  if s.hideSystemTables then some s.systemTableStart else none

def checkSecurity : Security → Except SettingsError Unit
  | .disabled => .ok ()
  | .bearer endpoint _ =>
    if Text.startsWith "http" endpoint then .ok ()
    else .error (.invalid "SECURITY_ENDPOINT" ("'" ++ endpoint ++ "' is not an http(s) url"))
  | .delegated d =>
    if !Text.startsWith "http" d.baseUrl then
      .error (.invalid "SECURITY_CONFIG_PATH"
        ("httpBaseUrl '" ++ d.baseUrl ++ "' is not an http(s) url"))
    else if !Text.startsWith "$." d.test.path then
      .error (.invalid "SECURITY_CONFIG_PATH" "valueToEvaluate must be a '$.' path")
    else .ok ()

def checkVisible (visible : VisibleColumns) : Except SettingsError Unit :=
  match visible.find? fun p => p.2.any String.isEmpty with
  | some (table, _) =>
    .error (.invalid "TABLE_SETTINGS_PATH" ("table '" ++ table ++ "' lists an empty column name"))
  | none => .ok ()

/-- The root starts with a slash, names a segment and does not end with a slash. -/
def isApiRoot (root : String) : Bool :=
  match root.toList with
  | '/' :: rest => !rest.isEmpty && rest.getLast? != some '/'
  | _ => false

def check (s : Settings) : Except SettingsError Unit := do
  if !isApiRoot s.apiRoot then
    .error (.invalid "API_ROOT" ("'" ++ s.apiRoot ++
      "' must start with '/', name a segment and have no trailing '/'"))
  if s.maxConnections = 0 then
    .error (.invalid "DATABASE_MAX_CONNECTIONS" "must be at least 1")
  if s.hideSystemTables && s.systemTableStart.isEmpty then
    .error (.invalid "SYSTEM_TABLE_PREFIX" "must not be empty when HIDE_SYSTEM_TABLES is set")
  checkSecurity s.security
  checkVisible s.visible

end Settings

end SchemaRest
