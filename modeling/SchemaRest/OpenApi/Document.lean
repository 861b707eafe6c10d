import SchemaRest.OpenApi.Operation
import SchemaRest.Config.Settings

/-!
# The document

The OpenAPI document of a snapshot. It has to be made from the snapshot that the endpoints were
registered from, so that it describes what is served.
-/

namespace SchemaRest.OpenApi

structure Info where
  title : String
  version : String
  description : String
  contact : Contact
  deriving DecidableEq, Repr

def Info.ofSettings (s : Settings) : Info where
  title := "Zero Code REST API for " ++ s.database
  version := "0.1.0"
  description := "REST endpoints for " ++ s.database ++ ", generated from its schema"
  contact := s.contact

def Info.json (i : Info) : Json :=
  object [("title", .str i.title), ("version", .str i.version),
    ("description", .str i.description),
    ("contact", object [("email", .str i.contact.email), ("name", .str i.contact.name),
      ("url", .str i.contact.url)])]

/-- A table, with its comment as the description. -/
def tag (t : Catalog.TableInfo) : Json :=
  object (("name", .str t.name) :: match t.comment with
    | some comment => if comment.isEmpty then [] else [("description", .str comment)]
    | none => [])

def paths (s : Catalog.Snapshot) : Json :=
  object (s.tables.flatMap fun t => tablePaths t.name (s.columns t.name))

def schemas (s : Catalog.Snapshot) : Json :=
  object (s.tables.flatMap (fun t =>
      [(t.name, rowSchema (s.columns t.name)),
        (t.name ++ "_query", querySchema (s.columns t.name))]) ++
    [("ErrorResponse", failureSchema)])

/-- The version of the specification that documents follow. -/
def version : String := "3.0.2"

/-- The document of a snapshot served at a URL. -/
def document (info : Info) (s : Catalog.Snapshot) (serverUrl openapiVersion : String) : Json :=
  object [("openapi", .str openapiVersion), ("info", info.json),
    ("servers", .arr [object [("url", .str serverUrl)]]),
    ("tags", .arr (s.tables.map tag)),
    ("paths", paths s),
    ("components", object [("schemas", schemas s),
      ("securitySchemes", object [("bearerAuth",
        object [("type", .str "http"), ("scheme", .str "bearer")])])]),
    ("security", bearerSecurity)]

/-- The page that shows the document of a root to a reader. -/
def page (apiRoot : String) : String :=
  let assets := "https://cdnjs.cloudflare.com/ajax/libs/swagger-ui/5.11.0/"
  "<!DOCTYPE html>\n" ++
  "<html lang=\"en\">\n" ++
  "  <head>\n" ++
  "    <meta charset=\"UTF-8\">\n" ++
  "    <title>Zero Code REST API</title>\n" ++
  "    <link rel=\"stylesheet\" type=\"text/css\" href=\"" ++ assets ++ "swagger-ui.css\" />\n" ++
  "  </head>\n" ++
  "  <body>\n" ++
  "    <div id=\"swagger-ui\"></div>\n" ++
  "    <script src=\"" ++ assets ++ "swagger-ui-bundle.js\" charset=\"UTF-8\"></script>\n" ++
  "    <script>\n" ++
  "    window.onload = function() \x7b\n" ++
  "      window.ui = SwaggerUIBundle(\x7b\n" ++
  "        url: \"" ++ apiRoot ++ "/docs/openapi.json\",\n" ++
  "        dom_id: '#swagger-ui',\n" ++
  "        deepLinking: true,\n" ++
  "        persistAuthorization: true\n" ++
  "      \x7d);\n" ++
  "    \x7d;\n" ++
  "    </script>\n" ++
  "  </body>\n" ++
  "</html>\n"

end SchemaRest.OpenApi
