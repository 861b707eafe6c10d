import SchemaRest.Config.Settings
import SchemaRest.Request.Body

/-!
# Reading the settings

Settings come from named texts, the environment, and from files that some of them name. A text is
trimmed, and an empty one counts as not given. They are read in a fixed order and the first that
cannot be read decides; what has been read is checked at the end.
-/

namespace SchemaRest.Settings

/-- Where settings are read from: named texts, and files by their names. -/
structure Sources where
  texts : List (String × String)
  files : List (String × String)

namespace Sources

def get? (s : Sources) (key : String) : Option String :=
  (s.texts.lookup key).bind Text.trimmed?

def require (s : Sources) (key : String) : Except SettingsError String :=
  match s.get? key with
  | some v => .ok v
  | none => .error (.missing key)

/-- A setting read by `read`, a text it refuses being reported with `problem`. -/
def read {α : Type} (s : Sources) (key : String) (read : String → Option α) (problem : String)
    (default : α) : Except SettingsError α :=
  match s.get? key with
  | none => .ok default
  | some v =>
    match read v with
    | some a => .ok a
    | none => .error (.invalid key ("'" ++ v ++ "' is not " ++ problem))

def file (s : Sources) (name : String) : Except SettingsError String :=
  match s.files.lookup name with
  | some text => .ok text
  | none => .error (.unreadable name "No such file or directory (os error 2)")

/-- A file that holds JSON of a certain shape. -/
def decodeFile {α : Type} (s : Sources) (name : String) (outline : Json.Outline)
    (decode : Json → Decoded α) : Except SettingsError α :=
  match s.file name with
  | .error e => .error e
  | .ok text =>
    match Decode.ofText outline decode text with
    | .ok a => .ok a
    | .error _ => .error (.unreadable name Json.malformed)

end Sources

/-- What follows the first slash after the scheme, up to a query or a fragment. -/
def databaseOfUrl? (url : String) : Option String :=
  let rest := (Text.afterFirst? [':', '/', '/'] url.toList).getD url.toList
  let name := (rest.dropWhile (· ≠ '/')).drop 1 |>.takeWhile fun c => c ≠ '?' && c ≠ '#'
  if name.isEmpty then none else some (String.ofList name)

def readTruth? (v : String) : Option Bool :=
  let v := Text.lower v
  if v == "true" || v == "1" || v == "yes" then some true
  else if v == "false" || v == "0" || v == "no" then some false
  else none

/-- A map of lists of columns by table, each table once. -/
def decodeVisible : Json → Decoded VisibleColumns := Decode.mapOf (Decode.listOf Decode.text)

def loadSecurity (s : Sources) : Except SettingsError Security := do
  let mode := Text.lower ((s.get? "SECURITY_MODE").getD "none")
  if mode == "none" || mode == "disabled" then
    return .disabled
  else if mode == "bearer" then
    return .bearer (← s.require "SECURITY_ENDPOINT") ((s.get? "SECURITY_APP_IDENTIFIER").getD "")
  else if mode == "delegated" then
    let name ← s.require "SECURITY_CONFIG_PATH"
    return .delegated (← s.decodeFile name Delegation.outline Delegation.decode)
  else
    .error (.invalid "SECURITY_MODE"
      ("unknown mode '" ++ mode ++ "' (expected none, bearer or delegated)"))

def loadVisible (s : Sources) : Except SettingsError VisibleColumns :=
  match s.get? "TABLE_SETTINGS_PATH" with
  | none => .ok []
  | some name => s.decodeFile name .whole decodeVisible

/-- The name given, or the one in the URL. -/
def loadDatabase (s : Sources) (url : String) : Except SettingsError String :=
  match s.get? "DATABASE_NAME" with
  | some name => .ok name
  | none =>
    match databaseOfUrl? url with
    | some name => .ok name
    | none => .error (.missing "DATABASE_NAME")

/-- The settings as they are given, not yet checked. -/
def gather (s : Sources) : Except SettingsError Settings := do
  let url ← s.require "DATABASE_URL"
  let database ← loadDatabase s url
  let port ← s.read "PORT" (Text.natUpTo? Text.maxU16) "a port number" 2000
  let connections ← s.read "DATABASE_MAX_CONNECTIONS" (Text.natUpTo? Text.maxU32)
    "a positive integer" 5
  let hide ← s.read "HIDE_SYSTEM_TABLES" readTruth? "a boolean" false
  let visible ← loadVisible s
  let security ← loadSecurity s
  return {
    port
    databaseUrl := url
    client := .ofName ((s.get? "DATABASE_CLIENT").getD "mysql")
    database
    maxConnections := connections
    hideSystemTables := hide
    systemTableStart := (s.get? "SYSTEM_TABLE_PREFIX").getD "OAUTH2_"
    apiRoot := (s.get? "API_ROOT").getD "/api"
    contact := {
      email := (s.get? "DOCS_CONTACT_EMAIL").getD ""
      name := (s.get? "DOCS_CONTACT_NAME").getD ""
      url := (s.get? "DOCS_CONTACT_URL").getD "" }
    security
    visible }

def load (s : Sources) : Except SettingsError Settings := do
  let settings ← gather s
  settings.check
  return settings

end SchemaRest.Settings
