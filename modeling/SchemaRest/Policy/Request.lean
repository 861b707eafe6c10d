import SchemaRest.Config.Settings
import SchemaRest.Policy.Address
import SchemaRest.Request.Context
import SchemaRest.Json.Path

/-!
# Requests to access services

What is posted to the service that decides about access. With a bearer token it is the token, the
permission and the name of this application; a delegated policy fills a template from the data of
the request. A template text that starts with `$.` is replaced by what it names: in a body by null
if there is nothing, in a header the header is then left out.
-/

namespace SchemaRest.Policy

structure Request where
  url : String
  /-- In the order they are set, names in lower case. -/
  headers : List (String × String)
  body : Json
  deriving Repr

/-- Why no decision was reached. -/
inductive Problem where
  /-- The address or a header cannot be read. -/
  | notARequest
  /-- No request can be made of the address. -/
  | notRequestable (url : String)
  /-- Nobody answered. -/
  | noAnswer (url : String)
  /-- The answer has a status of 400 or more. -/
  | badStatus (status : Nat) (url : String)
  /-- The answer is not JSON. -/
  | notJson
  deriving DecidableEq, Repr

/-! ## Headers -/

def isNameChar (c : Char) : Bool :=
  ('a' ≤ c && c ≤ 'z') || ('A' ≤ c && c ≤ 'Z') || ('0' ≤ c && c ≤ '9') ||
    "!#$%&'*+-.^_|~".toList.contains c || c = '\x60'

def isHeaderName (s : String) : Bool := !s.isEmpty && s.toList.all isNameChar

def isHeaderValue (s : String) : Bool :=
  s.toList.all fun c => c = '\t' || (32 ≤ c.toNat && c.toNat ≠ 127)

/-! ## Templates -/

def isReference (s : String) : Bool := Text.startsWith "$." s

/-- One value of a body template. Only a text on its own can be a reference. -/
def fill (data : Json) : Json → Json
  | .str s => if isReference s then (data.atPath? s).getD .null else .str s
  | v => v

def fillBody (template : Fields) (data : Json) : Json :=
  .ofFields (template.map fun p => (p.1, fill data p.2))

/-- A value inside a header. -/
def headerText : Json → String
  | .str s => s
  | v => v.text

def fillHeader (data : Json) (p : String × String) : Option (String × String) :=
  if isReference p.2 then (data.atPath? p.2).map fun v => (p.1, headerText v) else some p

def fillHeaders (template : List (String × String)) (data : Json) : List (String × String) :=
  template.filterMap (fillHeader data)

/-! ## The request -/

def contentType : String × String := ("content-type", "application/json")

def isHeader (p : String × String) : Bool := isHeaderName p.1 && isHeaderValue p.2

/-- A request with headers beside the content type. Only an address with a host is worth a look at
the headers. Where an address names a user, the client that sends the request adds an `authorization`
header of its own, which is left out here. -/
def requestTo (url : String) (headers : List (String × String)) (body : Json) :
    Except Problem Request :=
  match Address.read? url with
  | none => .error .notARequest
  | some address =>
    if !address.hasHost then .error (.notRequestable address.text)
    else if !headers.all isHeader then .error .notARequest
    else if !address.isRequestable then .error (.notRequestable address.text)
    else .ok {
      url := address.text
      headers := contentType :: headers.map fun p => (Text.lower p.1, p.2)
      body }

def ofToken (endpoint appIdentifier token permission : String) : Except Problem Request :=
  requestTo endpoint [] (.ofFields [("token", .str token), ("permission", .str permission),
    ("appIdentifier", .str appIdentifier)])

def ofTemplate (d : Delegation) (data : Json) : Except Problem Request :=
  requestTo (d.baseUrl ++ d.endpoint) (fillHeaders d.template.headers data)
    (fillBody d.template.body data)

/-! ## Wording -/

/-- The reason that goes with a status of 400 or more. -/
def reasons : List (Nat × String) := [
  (400, "Bad Request"), (401, "Unauthorized"), (402, "Payment Required"), (403, "Forbidden"),
  (404, "Not Found"), (405, "Method Not Allowed"), (406, "Not Acceptable"),
  (407, "Proxy Authentication Required"), (408, "Request Timeout"), (409, "Conflict"),
  (410, "Gone"), (411, "Length Required"), (412, "Precondition Failed"),
  (413, "Payload Too Large"), (414, "URI Too Long"), (415, "Unsupported Media Type"),
  (416, "Range Not Satisfiable"), (417, "Expectation Failed"), (418, "I'm a teapot"),
  (421, "Misdirected Request"), (422, "Unprocessable Entity"), (423, "Locked"),
  (424, "Failed Dependency"), (425, "Too Early"), (426, "Upgrade Required"),
  (428, "Precondition Required"), (429, "Too Many Requests"),
  (431, "Request Header Fields Too Large"), (451, "Unavailable For Legal Reasons"),
  (500, "Internal Server Error"), (501, "Not Implemented"), (502, "Bad Gateway"),
  (503, "Service Unavailable"), (504, "Gateway Timeout"), (505, "HTTP Version Not Supported"),
  (506, "Variant Also Negotiates"), (507, "Insufficient Storage"), (508, "Loop Detected"),
  (510, "Not Extended"), (511, "Network Authentication Required")]

def Problem.message : Problem → String
  | notARequest => "builder error"
  | notRequestable url => "builder error for url (" ++ url ++ ")"
  | noAnswer url => "error sending request for url (" ++ url ++ ")"
  | badStatus status url =>
    "HTTP status " ++ (if status < 500 then "client" else "server") ++ " error (" ++
      toString status ++ " " ++ (reasons.lookup status).getD "<unknown status code>" ++
      ") for url (" ++ url ++ ")"
  | notJson => "error decoding response body"

end SchemaRest.Policy
